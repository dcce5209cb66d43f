import OutageLedger.CommandLine.Basic
import OutageLedger.Provider.Report

/-
  The teams that a command line names. The text of the setting is a list of items with commas between them; an item
  is an id with blanks around it, or is blank and stands for nothing (`Items`). Main statements: `idsOfText_eq_iff`,
  the ids of a text are those that its items stand for, and `teams_denoted`, which adds what the filter by these
  teams makes of alerts whose teams have no ids.
-/

namespace OutageLedger

open Text

/-! ## Items -/

/-- A text that can be an id in a list with commas: it is not empty, and has no comma in it and no blank at its
ends. -/
structure IsTeamId (id : String) : Prop where
  nonempty : id ≠ ""
  noComma : ',' ∉ id.toList
  first : ∀ c rest, id.toList = c :: rest → isBlank c = false
  last : ∀ c front, id.toList = front ++ [c] → isBlank c = false

/-- The items of a list, and the ids that they stand for. -/
inductive Items : List String → List String → Prop
  | nil : Items [] []
  | blank {item : String} {items ids : List String} (hblank : ∀ c ∈ item.toList, isBlank c = true)
      (hrest : Items items ids) : Items (item :: items) ids
  | id {before id after : String} {items ids : List String} (hid : IsTeamId id)
      (hbefore : ∀ c ∈ before.toList, isBlank c = true) (hafter : ∀ c ∈ after.toList, isBlank c = true)
      (hrest : Items items ids) : Items ((before ++ id ++ after) :: items) (id :: ids)

/-- What is left of the items of a list. -/
def idsOfItems (items : List (List Char)) : List String :=
  ((items.map trim).filter (!·.isEmpty)).map String.ofList

theorem idsOfText_eq (s : String) : idsOfText s = idsOfItems (s.toList.splitOn ',') :=
  rfl

theorem idsOfItems_cons_of_nil {cs : List Char} (h : trim cs = []) (items : List (List Char)) :
    idsOfItems (cs :: items) = idsOfItems items := by
  unfold idsOfItems
  rw [List.map_cons, List.filter_cons_of_neg (by simp [h])]

theorem idsOfItems_cons_of_ne_nil {cs : List Char} (h : trim cs ≠ []) (items : List (List Char)) :
    idsOfItems (cs :: items) = String.ofList (trim cs) :: idsOfItems items := by
  unfold idsOfItems
  rw [List.map_cons, List.filter_cons_of_pos (by simp [h]), List.map_cons]

theorem not_isBlank_comma : isBlank ',' = false := by
  decide

namespace Items

variable {items ids : List String}

theorem noComma (h : Items items ids) : ∀ item ∈ items, ',' ∉ item.toList := by
  have hblank : ∀ {s : String}, (∀ c ∈ s.toList, isBlank c = true) → ',' ∉ s.toList := fun hs hmem =>
    Bool.false_ne_true (not_isBlank_comma.symm.trans (hs _ hmem))
  induction h with
  | nil => exact fun _ h => absurd h List.not_mem_nil
  | blank hitem _ ih => exact List.forall_mem_cons.mpr ⟨hblank hitem, ih⟩
  | id hid hbefore hafter _ ih =>
    refine List.forall_mem_cons.mpr ⟨?_, ih⟩
    simp only [String.toList_append, List.mem_append, not_or]
    exact ⟨⟨hblank hbefore, hid.noComma⟩, hblank hafter⟩

theorem idsOfItems_eq (h : Items items ids) : idsOfItems (items.map String.toList) = ids := by
  induction h with
  | nil => rfl
  | @blank item items ids hitem _ ih =>
    have htrim : trim (item.toList ++ [] ++ []) = [] := trim_padded hitem nofun nofun (by simp)
    rw [List.append_nil, List.append_nil] at htrim
    rw [List.map_cons, idsOfItems_cons_of_nil htrim, ih]
  | @id before id after items ids hid hbefore hafter _ ih =>
    have htrim := trim_padded hbefore hafter hid.first hid.last
    have hne : id.toList ≠ [] := fun hnil => hid.nonempty (String.toList_eq_nil_iff.mp hnil)
    rw [List.map_cons, String.toList_append, String.toList_append,
      idsOfItems_cons_of_ne_nil (by rwa [htrim]), htrim, String.ofList_toList, ih]

/-- Any texts without commas are items of the ids that are left of them. -/
theorem of_idsOfItems (css : List (List Char)) (h : ∀ cs ∈ css, ',' ∉ cs) :
    Items (css.map String.ofList) (idsOfItems css) := by
  induction css with
  | nil => exact .nil
  | cons cs css ih =>
    obtain ⟨hcomma, hrest⟩ := List.forall_mem_cons.mp h
    obtain ⟨before, after, hbefore, hafter, hsplit⟩ := exists_padding cs
    by_cases hnil : trim cs = []
    · rw [idsOfItems_cons_of_nil hnil]
      refine .blank ?_ (ih hrest)
      rw [hnil, List.append_nil] at hsplit
      rw [String.toList_ofList, hsplit]
      exact List.forall_mem_append.mpr ⟨hbefore, hafter⟩
    · have hid : IsTeamId (String.ofList (trim cs)) := {
        nonempty := fun hempty => hnil (by simpa using congrArg String.toList hempty)
        noComma := by
          rw [String.toList_ofList]
          intro hmem
          refine hcomma ?_
          rw [hsplit]
          simp [hmem]
        first := fun c rest hcons => head_trim_not_blank (by rwa [String.toList_ofList] at hcons)
        last := fun c front happend => last_trim_not_blank (by rwa [String.toList_ofList] at happend) }
      have hitem : String.ofList cs = String.ofList before ++ String.ofList (trim cs) ++ String.ofList after := by
        rw [← String.ofList_append, ← String.ofList_append, ← hsplit]
      rw [idsOfItems_cons_of_ne_nil hnil, List.map_cons, hitem]
      exact .id hid (by rwa [String.toList_ofList]) (by rwa [String.toList_ofList]) (ih hrest)

theorem isTeamId (h : Items items ids) : ∀ id ∈ ids, IsTeamId id := by
  induction h with
  | nil => exact fun _ h => absurd h List.not_mem_nil
  | blank _ _ ih => exact ih
  | id hid _ _ _ ih => exact List.forall_mem_cons.mpr ⟨hid, ih⟩

/-- Ids are items of themselves. -/
theorem self (h : ∀ id ∈ ids, IsTeamId id) : Items ids ids := by
  induction ids with
  | nil => exact .nil
  | cons id ids ih =>
    obtain ⟨hid, hrest⟩ := List.forall_mem_cons.mp h
    have hitem : "" ++ id ++ "" = id := by simp
    have hitems : Items (("" ++ id ++ "") :: ids) (id :: ids) := .id hid nofun nofun (ih hrest)
    rwa [hitem] at hitems

end Items

/-! ## Lists with commas -/

theorem not_mem_of_mem_splitOn {cs part : List Char} (h : part ∈ cs.splitOn ',') : ',' ∉ part := by
  induction cs generalizing part with
  | nil =>
    rw [List.splitOn_nil, List.mem_singleton] at h
    exact h ▸ List.not_mem_nil
  | cons c cs ih =>
    obtain ⟨first, parts, hsplit⟩ := List.exists_cons_of_ne_nil (List.splitOn_ne_nil ',' cs)
    rw [hsplit] at ih
    rw [List.splitOn_cons_eq_if_modifyHead, hsplit] at h
    split at h
    · rcases List.mem_cons.mp h with rfl | h
      · exact List.not_mem_nil
      · exact ih h
    · rename_i hc
      rcases List.mem_cons.mp h with rfl | h
      · rw [List.mem_cons, not_or]
        exact ⟨fun heq => hc (beq_iff_eq.mpr heq.symm), ih List.mem_cons_self⟩
      · exact ih (List.mem_cons_of_mem first h)

/-- A text denotes the ids that its items stand for, whatever blanks and blank items there are, and no others. -/
theorem idsOfText_eq_iff {s : String} {ids : List String} :
    idsOfText s = ids ↔ ∃ items, Items items ids ∧ s = ",".intercalate items := by
  constructor
  · rintro rfl
    refine ⟨_, .of_idsOfItems (s.toList.splitOn ',') fun part => not_mem_of_mem_splitOn, ?_⟩
    apply String.ext
    rw [String.toList_intercalate, List.map_map]
    have hsame : String.toList ∘ String.ofList = id := funext fun _ => String.toList_ofList
    rw [hsame, List.map_id]
    exact (List.intercalate_splitOn ',').symm
  · rintro ⟨items, hitems, rfl⟩
    rw [idsOfText_eq, String.toList_intercalate]
    by_cases hnil : items = []
    · subst hnil
      cases hitems
      rfl
    · have hcommas : ∀ part ∈ items.map String.toList, ',' ∉ part := by simpa using hitems.noComma
      have hsplit := List.splitOn_intercalate ',' hcommas (by simpa using hnil)
      rw [← hitems.idsOfItems_eq]
      exact congrArg idsOfItems hsplit

/-! ## References to teams -/

/-- A reference to a team, as a service sends it, that leaves the id out or has an empty one. -/
inductive Json.IsNameless : Json → Prop
  | object {members : List (Option String × Json)} (h : ∀ m ∈ members, m.1 = some "id" → m.2 = .text "") :
      IsNameless (.object members)
  | array {items : List Json} (h : ∀ item, items.head? = some item → item = .text "") :
      IsNameless (.array items)

/-- The references to teams in an alert, as a service sends it. -/
def Vocabulary.teamReferences (v : Vocabulary) (j : Json) : List Json :=
  match (j.fields? v.reportNames).bind (·.value? "teams") with
  | some (.array refs) => refs
  | _ => []

/-- The id that is given is empty, if there is one. -/
theorem Json.IsNameless.value?_eq {j : Json} (h : j.IsNameless) {names : List String} {f : Json.Fields}
    (hfields : j.fields? ("id" :: names) = some f) :
    f.value? "id" = none ∨ f.value? "id" = some (.text "") := by
  cases h with
  | @object members h =>
    simp only [Json.fields?] at hfields
    split at hfields
    · simp only [List.mapM_cons, Option.map_eq_some_iff, Option.bind_eq_bind, Option.bind_eq_some_iff] at hfields
      obtain ⟨values, ⟨_, ⟨value, hmember, rfl⟩, rest, -, hvalues⟩, rfl⟩ := hfields
      obtain rfl := Option.some.inj hvalues
      show value = none ∨ value = some (.text "")
      unfold Json.member? at hmember
      split at hmember
      · exact Or.inl (Option.some.inj hmember).symm
      · rename_i m hfilter
        obtain ⟨hmem, hname⟩ := List.mem_filter.mp (hfilter ▸ List.mem_singleton_self m)
        rw [← Option.some.inj hmember, h m hmem (beq_iff_eq.mp hname)]
        exact Or.inr rfl
      · cases hmember
    · cases hfields
  | @array items h =>
    simp only [Json.fields?] at hfields
    cases items with
    | nil =>
      obtain rfl := Option.some.inj hfields
      exact Or.inl rfl
    | cons item items =>
      simp only [Json.align?, Option.map_eq_some_iff] at hfields
      obtain ⟨_, ⟨rest, -, rfl⟩, rfl⟩ := hfields
      show some item = none ∨ some item = some (.text "")
      rw [h item rfl]
      exact Or.inr rfl

theorem Vocabulary.id_of_isNameless {v : Vocabulary} {j : Json} {team : Team} (h : j.IsNameless)
    (hread : v.team? j = some team) : team.id = "" := by
  unfold team? teamNames at hread
  simp only [Option.bind_eq_bind, Option.bind_eq_some_iff] at hread
  obtain ⟨f, hfields, id, hid, name, -, hteam⟩ := hread
  obtain rfl := Option.some.inj hteam
  unfold Json.Fields.withDefault at hid
  rcases h.value?_eq hfields with hvalue | hvalue
  · rw [hvalue] at hid
    exact (Option.some.inj hid).symm
  · rw [hvalue] at hid
    exact (Option.some.inj hid).symm

/-- What is read of a list is read of one of its items. -/
theorem exists_of_mem_mapM {α β : Type} {read : α → Option β} {as : List α} {bs : List β} {b : β}
    (h : as.mapM read = some bs) (hb : b ∈ bs) : ∃ a ∈ as, read a = some b := by
  induction as generalizing bs with
  | nil =>
    obtain rfl := Option.some.inj h
    cases hb
  | cons a as ih =>
    simp only [List.mapM_cons, Option.bind_eq_bind, Option.bind_eq_some_iff] at h
    obtain ⟨first, hfirst, rest, hrest, hbs⟩ := h
    obtain rfl := Option.some.inj hbs
    rcases List.mem_cons.mp hb with rfl | hb
    · exact ⟨a, List.mem_cons_self, hfirst⟩
    · obtain ⟨a', ha', hread⟩ := ih hrest hb
      exact ⟨a', List.mem_cons_of_mem a ha', hread⟩

/-- The teams of an alert are what its references are read as. -/
theorem Vocabulary.mapM_teamReferences {v : Vocabulary} {j : Json} {rep : Report} (h : v.report? j = some rep) :
    (v.teamReferences j).mapM v.team? = some rep.teams := by
  unfold report? at h
  simp only [Option.bind_eq_bind, Option.bind_eq_some_iff] at h
  obtain ⟨f, hfields, _, -, _, -, _, -, _, -, _, -, _, -, _, -, teams, hteams, hrep⟩ := h
  obtain rfl := Option.some.inj hrep
  unfold Json.Fields.withDefault at hteams
  unfold teamReferences
  rw [hfields, Option.bind_some]
  split at hteams
  · rename_i value hvalue
    rw [hvalue]
    cases value with
    | array refs => exact hteams
    | _ => cases hteams
  · rename_i hvalue
    rw [hvalue]
    exact hteams

/-- No alert whose references all lack an id is one of a team that is asked for by an id. -/
theorem Report.matchesTeams_of_nameless {v : Vocabulary} {j : Json} {rep : Report} {ids : List String}
    (hread : v.report? j = some rep) (hrefs : ∀ ref ∈ v.teamReferences j, ref.IsNameless)
    (hids : ids ≠ []) (hempty : "" ∉ ids) : rep.matchesTeams ids = false := by
  have hnameless : ∀ team ∈ rep.teams, team.id = "" := by
    intro team hteam
    obtain ⟨ref, href, hteam⟩ := exists_of_mem_mapM (Vocabulary.mapM_teamReferences hread) hteam
    exact Vocabulary.id_of_isNameless (hrefs ref href) hteam
  unfold matchesTeams
  rw [Bool.or_eq_false_iff]
  refine ⟨by simpa using hids, List.any_eq_false.mpr fun team hteam => ?_⟩
  rw [hnameless team hteam]
  simpa using hempty

/-! ## The setting -/

theorem CommandLine.teamIds_of_text {c : CommandLine} {text : String} (h : c.teams = some text) :
    c.teamIds = idsOfText text := by
  unfold teamIds
  rw [h]

/-- The text of the setting denotes the ids that stand between its commas, in order and as often as they stand there,
with blanks around each and blank items among them; each of these is a text that can be an id, and every list of such
texts is denoted, by itself for one. If there are any ids, an alert whose teams have all been sent without an id, or
with an empty one, is not wanted. -/
theorem teams_denoted (c : CommandLine) (text : String) (h : c.teams = some text) :
    (∀ id ∈ c.teamIds, IsTeamId id) ∧
      (∀ ids, c.teamIds = ids ↔ ∃ items, Items items ids ∧ text = ",".intercalate items) ∧
      { c with teams := some (",".intercalate c.teamIds) }.teamIds = c.teamIds ∧
      (c.teamIds ≠ [] → ∀ (j : Json) (rep : Report), Source.opsGenie.vocabulary.report? j = some rep →
        (∀ ref ∈ Source.opsGenie.vocabulary.teamReferences j, ref.IsNameless) →
          rep.matchesTeams c.teamIds = false) := by
  have hdenotes : ∀ ids, c.teamIds = ids ↔ ∃ items, Items items ids ∧ text = ",".intercalate items := fun ids => by
    rw [CommandLine.teamIds_of_text h]
    exact idsOfText_eq_iff
  obtain ⟨items, hitems, -⟩ := (hdenotes c.teamIds).mp rfl
  have hids := hitems.isTeamId
  refine ⟨hids, hdenotes, ?_, fun hsome j rep hread hrefs => ?_⟩
  · rw [CommandLine.teamIds_of_text rfl]
    exact idsOfText_eq_iff.mpr ⟨_, .self hids, rfl⟩
  · exact Report.matchesTeams_of_nameless hread hrefs hsome fun hempty => (hids "" hempty).nonempty rfl

namespace Sample

/-- Teams with blanks around some of them, two of them the same, and items between them that are no teams. -/
def teamsLine : CommandLine :=
  ⟨.opsGenie, none, none, some " T1,\u00A0T 2 ,, ,T1", true, false, "config.yaml", defaultLimit, none, none⟩

/-- An alert of two teams, one sent without an id and one with an empty id. -/
def namelessReport : Json :=
  .record [("id", .text "A1"), ("createdAt", .text "2024-01-01T00:00:00Z"),
    ("teams", .array [.record [("name", .text "Platform")], .record [("id", .text ""), ("name", .text "Edge")]])]

end Sample

theorem teams_denoted_of_line :
    Sample.teamsLine.teamIds = ["T1", "T 2", "T1"] ∧
      ∃ rep, Source.opsGenie.vocabulary.report? Sample.namelessReport = some rep ∧
        rep.matchesTeams Sample.teamsLine.teamIds = false := by
  obtain ⟨-, -, -, hfilter⟩ := teams_denoted Sample.teamsLine _ rfl
  have hids : Sample.teamsLine.teamIds = ["T1", "T 2", "T1"] := by decide
  have hread : (Source.opsGenie.vocabulary.report? Sample.namelessReport).isSome = true := by decide +kernel
  have hrefs : Source.opsGenie.vocabulary.teamReferences Sample.namelessReport =
      [.record [("name", .text "Platform")], .record [("id", .text ""), ("name", .text "Edge")]] := rfl
  obtain ⟨rep, hrep⟩ := Option.isSome_iff_exists.mp hread
  refine ⟨hids, rep, hrep, hfilter (by rw [hids]; exact List.cons_ne_nil _ _) _ rep hrep ?_⟩
  rw [hrefs]
  refine List.forall_mem_cons.mpr ⟨.object ?_, List.forall_mem_singleton.mpr (.object ?_)⟩
  · simp
  · simp

end OutageLedger
