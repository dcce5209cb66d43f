import Mathlib.Data.List.Nodup
import OutageLedger.Json.Fields

/-
  Records in JSON read back. A record with the declared names, each given once, gives each of them the value
  that stands with it (`fields?_record`), and so do the readers of a field (`Gives.required`,
  `Gives.nullable`).
-/

namespace OutageLedger

/-- Where no two share a key, one has it. -/
theorem filter_of_nodup {α κ : Type} [DecidableEq κ] {key : α → κ} {as : List α} {a : α}
    (hkeys : (as.map key).Nodup) (h : a ∈ as) : as.filter (key · = key a) = [a] := by
  induction as with
  | nil => cases h
  | cons b as ih =>
    obtain ⟨hnew, hrest⟩ := List.nodup_cons.mp hkeys
    rcases List.mem_cons.mp h with rfl | h
    · have hnone : as.filter (key · = key a) = [] := by
        refine List.filter_eq_nil_iff.mpr fun c hc heq => hnew ?_
        exact of_decide_eq_true heq ▸ List.mem_map_of_mem hc
      rw [List.filter_cons_of_pos (by simp), hnone]
    · have hne : key b ≠ key a := fun heq => hnew (heq ▸ List.mem_map_of_mem h)
      rw [List.filter_cons_of_neg (by simpa using hne), ih hrest h]

/-- Where no two share a name, a value is looked up by its own. -/
theorem lookup_of_nodup {α β : Type} [BEq α] [LawfulBEq α] {ps : List (α × β)} {p : α × β}
    (hnames : (ps.map (·.1)).Nodup) (h : p ∈ ps) : ps.lookup p.1 = some p.2 := by
  obtain ⟨front, rest, rfl⟩ := List.append_of_mem h
  rw [List.map_append] at hnames
  refine List.lookup_eq_some_iff.mpr ⟨front, rest, rfl, fun q hq => bne_iff_ne.mpr fun heq => ?_⟩
  refine List.disjoint_of_nodup_append hnames (List.mem_map_of_mem hq) ?_
  rw [← heq]
  exact List.mem_cons_self

namespace Json

/-- The fields of an object with these members. -/
structure Gives (f : Fields) (members : List (String × Json)) : Prop where
  named : f.positional = false
  value : ∀ m ∈ members, f.value? m.1 = some m.2

/-- What is read of each item of a mapped list is what `g` says of the item. -/
theorem mapM_map_eq {α β γ : Type} {f : α → β} {g : α → γ} {read : β → Option γ} {as : List α}
    (h : ∀ a ∈ as, read (f a) = some (g a)) : (as.map f).mapM read = some (as.map g) := by
  induction as with
  | nil => rfl
  | cons a as ih =>
    rw [List.map_cons, List.mapM_cons, h a List.mem_cons_self,
      ih fun b hb => h b (List.mem_cons_of_mem a hb)]
    rfl

variable {members : List (String × Json)} {m : String × Json}

theorem member?_of_mem (hnames : (members.map (·.1)).Nodup) (h : m ∈ members) :
    member? (members.map fun (name, value) => (some name, value)) m.1 = some (some m.2) := by
  have hname : ((fun x : Option String × Json => x.1 == some m.1) ∘
      fun x : String × Json => (some x.1, x.2)) = fun x => decide (x.1 = m.1) := by
    funext x
    rw [Bool.eq_iff_iff]
    simp
  have hone := filter_of_nodup hnames h
  unfold member?
  rw [List.filter_map, hname, hone]
  rfl

/-- An object that gives each declared name once has them as its fields. -/
theorem fields?_record (hnames : (members.map (·.1)).Nodup) :
    ∃ f, (record members).fields? (members.map (·.1)) = some f ∧ Gives f members := by
  let values := members.map fun m => (m.1, some m.2)
  have htexts : (members.map fun (name, value) => (some name, value)).all (fun m => m.1.isSome) = true := by
    rw [List.all_map]
    exact List.all_eq_true.mpr fun _ _ => rfl
  have hread : (members.map (·.1)).mapM (fun name =>
      (member? (members.map fun (name, value) => (some name, value)) name).map (name, ·)) =
        some values := by
    refine mapM_map_eq fun m hm => ?_
    rw [member?_of_mem hnames hm]
    rfl
  refine ⟨⟨values, false⟩, ?_, rfl, fun m hm => ?_⟩
  · unfold record fields?
    dsimp only
    rw [if_pos htexts, hread]
    rfl
  · have hnames' : (values.map (·.1)).Nodup := by
      rw [List.map_map]
      exact hnames
    show (values.lookup m.1).join = some m.2
    rw [lookup_of_nodup (p := (m.1, some m.2)) hnames' (List.mem_map_of_mem hm)]
    rfl

namespace Gives

variable {α : Type} {f : Fields} {name : String} {value : Json} {read : Json → Option α} {a : α}

theorem mono {ms : List (String × Json)} (hf : Gives f members) (h : ms ⊆ members) : Gives f ms :=
  ⟨hf.named, fun m hm => hf.value m (h hm)⟩

theorem required (hf : Gives f members) (h : (name, value) ∈ members) (hread : read value = some a) :
    f.required name read = some a := by
  unfold Fields.required
  rw [hf.value (name, value) h]
  exact hread

theorem nullable {a : Option α} (hf : Gives f members) (h : (name, value) ∈ members)
    (hread : nullable? read value = some a) : f.nullable name read = some a := by
  unfold Fields.nullable Fields.optional Fields.withDefault
  rw [hf.named, hf.value (name, value) h]
  exact hread

end Gives

end Json

end OutageLedger
