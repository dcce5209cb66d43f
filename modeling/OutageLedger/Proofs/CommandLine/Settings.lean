import Mathlib.Logic.Function.Basic
import OutageLedger.Proofs.CommandLine.Spelling

/-
  The settings that a command line gives. Each flag has a setting of its own kind; an item is taken in if its flag has
  no setting so far, and leaves the other settings as they are (`take_eq_ok_iff`). Main statement:
  `follows_of_ofArguments`, a command line that is accepted says of each flag what its arguments say, and keeps to the
  rules about which flags exclude or require each other.
-/

namespace OutageLedger

open CommandLine (Item Spells)

/-! ## Settings by flag -/

namespace Flag

/-- What a flag can be set to. -/
def Value : Flag → Type
  | service => Source
  | since | upTo => Instant
  | teams | config | alert => String
  | listTeams | dryRun => Unit
  | batchSize => UInt32
  | outage => Uuid
  | help => Empty

/-- The setting that a text stands for. -/
def read : (flag : Flag) → String → Option flag.Value
  | service, s => (Source.ofName s).toOption
  | since, s | upTo, s => (readDate s).toOption
  | teams, s | alert, s => some s
  | config, s => if s = "" then none else some s
  | batchSize, s => (readBatchSize s).toOption
  | outage, s => (Uuid.ofText s).toOption
  | listTeams, _ | dryRun, _ | help, _ => none

/-- The setting that a flag stands for by itself. -/
def alone? : (flag : Flag) → Option flag.Value
  | listTeams | dryRun => some ()
  | _ => none

end Flag

namespace Given

/-- The setting of a flag, if it has one. -/
def get (g : Given) : (flag : Flag) → Option flag.Value
  | .service => g.service
  | .since => g.since
  | .upTo => g.upTo
  | .teams => g.teams
  | .listTeams => if g.listTeams then some () else .none
  | .dryRun => if g.dryRun then some () else .none
  | .config => g.config
  | .batchSize => g.batchSize
  | .alert => g.alert
  | .outage => g.outage
  | .help => .none

def set (g : Given) : (flag : Flag) → flag.Value → Given
  | .service, v => { g with service := some v }
  | .since, v => { g with since := some v }
  | .upTo, v => { g with upTo := some v }
  | .teams, v => { g with teams := some v }
  | .listTeams, _ => { g with listTeams := true }
  | .dryRun, _ => { g with dryRun := true }
  | .config, v => { g with config := some v }
  | .batchSize, v => { g with batchSize := some v }
  | .alert, v => { g with alert := some v }
  | .outage, v => { g with outage := some v }
  | .help, v => v.elim

variable {g g' : Given} {flag : Flag}

theorem get_set_self (g : Given) (v : flag.Value) : (g.set flag v).get flag = some v := by
  cases flag with
  | help => exact v.elim
  | _ => rfl

theorem get_set_of_ne (g : Given) {flag' : Flag} (v : flag.Value) (h : flag' ≠ flag) :
    (g.set flag v).get flag' = g.get flag' := by
  cases flag with
  | help => exact v.elim
  | _ => cases flag' <;> first | rfl | exact absurd rfl h

/-- A command line without arguments sets nothing. -/
theorem get_none (flag : Flag) : Given.none.get flag = .none := by
  cases flag <;> rfl

/-! ## Taking in items -/

section

variable {α : Type}

/-- What is read is taken in as a setting if there was none. -/
theorem once_bind_eq_ok_iff {current read : Option α} {value : Except UsageError α} {f : α → Given}
    (hread : ∀ v, value = .ok v ↔ read = some v) :
    (once current value >>= fun v => pure (f v)) = .ok g' ↔
      current = .none ∧ ∃ v, read = some v ∧ f v = g' := by
  have hcurrent : ¬ current.isSome = true ↔ current = .none := by simp
  unfold once
  simp only [bind_eq_ok_iff, ite_error_eq_ok_iff, hcurrent, hread, and_assoc, exists_and_left]
  exact and_congr_right fun _ => exists_congr fun v => and_congr_right fun _ => iff_of_eq (Except.ok.injEq _ _)

theorem checked_eq_ok_iff {value : Except ValueError α} {v : α} : checked flag value = .ok v ↔ value = .ok v := by
  cases value <;> simp [checked]

theorem path_eq_ok_iff {s v : String} :
    path flag s = .ok v ↔ (if s = "" then .none else some s : Option String) = some v := by
  unfold path
  split <;> simp

end

/-- A value is taken in if it is one of its flag, which has none so far. -/
theorem assign_eq_ok_iff {s : String} :
    g.assign flag s = .ok g' ↔ g.get flag = .none ∧ ∃ v, flag.read s = some v ∧ g.set flag v = g' := by
  cases flag with
  | service =>
    exact once_bind_eq_ok_iff fun v =>
      checked_eq_ok_iff.trans (mapError_eq_ok_iff.trans toOption_eq_some_iff.symm)
  | since | upTo => exact once_bind_eq_ok_iff fun v => checked_eq_ok_iff.trans toOption_eq_some_iff.symm
  | teams | alert =>
    exact once_bind_eq_ok_iff fun v =>
      ⟨fun h => congrArg some (Except.ok.inj h), fun h => congrArg Except.ok (Option.some.inj h)⟩
  | config => exact once_bind_eq_ok_iff fun v => path_eq_ok_iff
  | batchSize | outage =>
    exact once_bind_eq_ok_iff fun v =>
      checked_eq_ok_iff.trans (mapError_eq_ok_iff.trans toOption_eq_some_iff.symm)
  | listTeams | dryRun | help => simp [assign, Flag.read]

/-- A flag is switched on if it stands alone and is not on so far. -/
theorem switchOn_eq_ok_iff :
    g.switchOn flag = .ok g' ↔ g.get flag = .none ∧ ∃ v, flag.alone? = some v ∧ g.set flag v = g' := by
  have hswitch : ∀ {current : Bool} {h : Given},
      (if current then .error UsageError.conflict else .ok h) = Except.ok g' ↔
        (if current then some () else Option.none) = .none ∧ ∃ v, some () = some v ∧ h = g' := by
    intro current h
    cases current <;> simp
  cases flag with
  | listTeams | dryRun => exact hswitch
  | _ => simp [switchOn, Flag.alone?]

end Given

/-- What an item sets its flag to. -/
def CommandLine.Item.value? : (item : Item) → Option item.flag.Value
  | .switch flag => flag.alone?
  | .setting flag s => flag.read s

namespace Given

variable {g g' : Given} {flag : Flag} {item : Item} {items : List Item}

/-- An item is taken in if it sets its flag, which is not set so far. -/
theorem take_eq_ok_iff :
    g.take item = .ok g' ↔ g.get item.flag = .none ∧ ∃ v, item.value? = some v ∧ g.set item.flag v = g' := by
  cases item with
  | switch flag => exact switchOn_eq_ok_iff
  | setting flag s => exact assign_eq_ok_iff

/-- What is set is not set again. -/
theorem get_of_take {v : flag.Value} (h : g.take item = .ok g') (hget : g.get flag = some v) :
    g'.get flag = some v := by
  obtain ⟨hnone, v, -, rfl⟩ := take_eq_ok_iff.mp h
  have hne : flag ≠ item.flag := by
    rintro rfl
    rw [hnone] at hget
    cases hget
  rw [get_set_of_ne g v hne, hget]

/-! ## All items -/

theorem get_of_foldlM {v : flag.Value} (h : items.foldlM take g = .ok g') (hget : g.get flag = some v) :
    g'.get flag = some v := by
  induction items generalizing g with
  | nil => exact Except.ok.inj h ▸ hget
  | cons item items ih =>
    rw [List.foldlM_cons, bind_eq_ok_iff] at h
    obtain ⟨k, htake, hrest⟩ := h
    exact ih hrest (get_of_take htake hget)

/-- Every item sets its flag. -/
theorem get_of_mem (h : items.foldlM take g = .ok g') (hitem : item ∈ items) :
    ∃ v, item.value? = some v ∧ g'.get item.flag = some v := by
  induction items generalizing g with
  | nil => cases hitem
  | cons first items ih =>
    rw [List.foldlM_cons, bind_eq_ok_iff] at h
    obtain ⟨k, htake, hrest⟩ := h
    rcases List.mem_cons.mp hitem with rfl | hitem
    · obtain ⟨-, v, hv, rfl⟩ := take_eq_ok_iff.mp htake
      exact ⟨v, hv, get_of_foldlM hrest (get_set_self g v)⟩
    · exact ih hrest hitem

/-- What no item sets stays as it was. -/
theorem get_of_not_mem (h : items.foldlM take g = .ok g') (hflag : ∀ item ∈ items, item.flag ≠ flag) :
    g'.get flag = g.get flag := by
  induction items generalizing g with
  | nil => rw [Except.ok.inj h]
  | cons item items ih =>
    rw [List.foldlM_cons, bind_eq_ok_iff] at h
    obtain ⟨k, htake, hrest⟩ := h
    obtain ⟨-, v, -, rfl⟩ := take_eq_ok_iff.mp htake
    rw [ih hrest fun i hi => hflag i (List.mem_cons_of_mem _ hi),
      get_set_of_ne g v (hflag item List.mem_cons_self).symm]

end Given

/-! ## What the arguments say -/

namespace Flag

/-- The arguments say what a flag is set to: every text that it stands with is read as that, and it is set to nothing
where it stands with none. -/
structure Says (flag : Flag) (arguments : List String) (setting : Option flag.Value) : Prop where
  read : ∀ s, flag.IsSet arguments s → flag.read s = setting
  isSome_iff : setting.isSome = true ↔ ∃ s, flag.IsSet arguments s

end Flag

section

variable {arguments : List String} {items : List Item} {item : Item} {g : Given} {flag : Flag}

/-- A flag has items of one kind only, with a value or without. -/
theorem CommandLine.Spells.eq_of_mem (h : Spells arguments items) (hitem : item ∈ items) :
    (item.flag.isSwitch = true ∧ item = .switch item.flag) ∨
      (item.flag.isSwitch = false ∧ ∃ s, item = .setting item.flag s) := by
  induction h with
  | nil => cases hitem
  | stop => cases hitem
  | cons hfirst _ ih =>
    rcases List.mem_cons.mp hitem with rfl | hitem
    · cases hfirst with
      | switch hflag => exact Or.inl ⟨hflag, rfl⟩
      | joined hflag s => exact Or.inr ⟨hflag, s, rfl⟩
      | apart hflag _ => exact Or.inr ⟨hflag, _, rfl⟩
    · exact ih hitem

theorem CommandLine.Spells.exists_item_iff_isOn (h : Spells arguments items) (hflag : flag.isSwitch = true) :
    (∃ item ∈ items, item.flag = flag) ↔ flag.IsOn arguments := by
  rw [h.isOn_iff hflag]
  constructor
  · rintro ⟨item, hitem, rfl⟩
    rcases h.eq_of_mem hitem with ⟨-, heq⟩ | ⟨hvalue, -⟩
    · exact heq ▸ hitem
    · rw [hflag] at hvalue
      cases hvalue
  · exact fun hitem => ⟨_, hitem, rfl⟩

theorem CommandLine.Spells.exists_item_iff_isSet (h : Spells arguments items) (hflag : flag.isSwitch = false) :
    (∃ item ∈ items, item.flag = flag) ↔ ∃ s, flag.IsSet arguments s := by
  simp only [h.isSet_iff hflag]
  constructor
  · rintro ⟨item, hitem, rfl⟩
    rcases h.eq_of_mem hitem with ⟨hswitch, -⟩ | ⟨-, s, heq⟩
    · rw [hflag] at hswitch
      cases hswitch
    · exact ⟨s, heq ▸ hitem⟩
  · exact fun ⟨s, hitem⟩ => ⟨_, hitem, rfl⟩

/-- What is set is what the items set. -/
theorem isSome_get_iff (h : items.foldlM Given.take .none = .ok g) :
    (g.get flag).isSome = true ↔ ∃ item ∈ items, item.flag = flag := by
  constructor
  · intro hget
    by_contra hnot
    rw [Given.get_of_not_mem h fun item hitem heq => hnot ⟨item, hitem, heq⟩, Given.get_none] at hget
    cases hget
  · rintro ⟨item, hitem, rfl⟩
    obtain ⟨v, -, hget⟩ := Given.get_of_mem h hitem
    exact Option.isSome_of_eq_some hget

theorem says_of_foldlM (hspells : Spells arguments items) (h : items.foldlM Given.take .none = .ok g)
    (hflag : flag.isSwitch = false) : flag.Says arguments (g.get flag) where
  read s hset := by
    obtain ⟨v, hv, hget⟩ := Given.get_of_mem h ((hspells.isSet_iff hflag).mp hset)
    exact hv.trans hget.symm
  isSome_iff := (isSome_get_iff h).trans (hspells.exists_item_iff_isSet hflag)

end

/-! ## Accepted command lines -/

namespace Given

variable {g : Given}

theorem isSome_get_listTeams : (g.get .listTeams).isSome = g.listTeams := by
  unfold get
  cases g.listTeams <;> rfl

theorem isSome_get_dryRun : (g.get .dryRun).isSome = g.dryRun := by
  unfold get
  cases g.dryRun <;> rfl

theorem excluded_of_no_conflict (h : ¬ g.hasConflict = true) (halert : g.alert.isSome = true) :
    g.listTeams = false ∧ g.dryRun = false := by
  simpa [hasConflict, halert] using h

theorem start_of_not_lacking (h : ¬ g.lacksStart = true) :
    g.since.isSome = true ∨ g.listTeams = true ∨ g.alert.isSome = true := by
  revert h
  unfold lacksStart
  cases g.since <;> cases g.listTeams <;> cases g.alert <;> simp

theorem alert_of_not_lacking (h : ¬ g.lacksAlert = true) (houtage : g.outage.isSome = true) :
    g.alert.isSome = true ∨ g.listTeams = true ∨ g.dryRun = true := by
  revert h
  unfold lacksAlert
  rw [houtage]
  cases g.listTeams <;> cases g.dryRun <;> cases g.alert <;> simp

theorem configPath_eq {environment : Option String} {config : String}
    (h : g.configPath environment = .ok config) : config = (g.config.or environment).getD "config.yaml" := by
  unfold configPath at h
  split at h
  · rename_i hgiven
    rw [hgiven]
    exact (Except.ok.inj h).symm
  · rename_i given hgiven
    unfold path at h
    rw [ite_error_eq_ok_iff] at h
    rw [hgiven]
    exact (Except.ok.inj h.2).symm
  · rename_i hgiven
    rw [hgiven]
    exact (Except.ok.inj h).symm

end Given

namespace CommandLine

/-- A command line says what its arguments say, or else what the environment or a default says, and keeps to the rules
about which flags exclude or require each other. -/
structure Follows (c : CommandLine) (arguments : List String) (environment : Option String) : Prop where
  service : Flag.service.Says arguments (some c.service)
  since : Flag.since.Says arguments c.since
  upTo : Flag.upTo.Says arguments c.upTo
  teams : Flag.teams.Says arguments c.teams
  alert : Flag.alert.Says arguments c.alert
  outage : Flag.outage.Says arguments c.outage
  batchSize : ∃ given, Flag.batchSize.Says arguments given ∧ c.batchSize = given.getD defaultLimit
  config : ∃ given : Option String, Flag.config.Says arguments given ∧
    c.config = (given.or environment).getD "config.yaml"
  listTeams : c.listTeams = true ↔ Flag.listTeams.IsOn arguments
  dryRun : c.dryRun = true ↔ Flag.dryRun.IsOn arguments
  alertExcludes : c.alert.isSome = true → c.listTeams = false ∧ c.dryRun = false
  needsStart : c.since.isSome = true ∨ c.listTeams = true ∨ c.alert.isSome = true
  outageRequires : c.outage.isSome = true → c.alert.isSome = true ∨ c.listTeams = true ∨ c.dryRun = true

/-- An accepted command line follows its arguments. -/
theorem follows_of_ofArguments {c : CommandLine} {arguments : List String} {environment : Option String}
    (h : ofArguments arguments environment = .ok c) : c.Follows arguments environment := by
  unfold ofArguments at h
  rw [bind_eq_ok_iff] at h
  obtain ⟨g, hread, h⟩ := h
  obtain ⟨items, hspells, htaken⟩ := Given.readFrom_eq_ok_iff.mp hread
  unfold Given.commandLine at h
  simp only [bind_eq_ok_iff, ite_error_eq_ok_iff] at h
  obtain ⟨config, hconfig, hconflict, h⟩ := h
  split at h
  · cases h
  · rename_i service hservice
    rw [ite_error_eq_ok_iff] at h
    obtain ⟨hlacks, h⟩ := h
    have hsaid : ∀ flag : Flag, flag.isSwitch = false → flag.Says arguments (g.get flag) := fun flag hflag =>
      says_of_foldlM hspells htaken hflag
    rw [Bool.or_eq_true, not_or] at hlacks
    cases h
    exact {
      service := hservice ▸ hsaid .service rfl
      since := hsaid .since rfl
      upTo := hsaid .upTo rfl
      teams := hsaid .teams rfl
      alert := hsaid .alert rfl
      outage := hsaid .outage rfl
      batchSize := ⟨_, hsaid .batchSize rfl, rfl⟩
      config := ⟨_, hsaid .config rfl, Given.configPath_eq hconfig⟩
      listTeams := Given.isSome_get_listTeams ▸ (isSome_get_iff htaken).trans (hspells.exists_item_iff_isOn rfl)
      dryRun := Given.isSome_get_dryRun ▸ (isSome_get_iff htaken).trans (hspells.exists_item_iff_isOn rfl)
      alertExcludes := Given.excluded_of_no_conflict hconflict
      needsStart := Given.start_of_not_lacking hlacks.2
      outageRequires := Given.alert_of_not_lacking hlacks.1 }

end CommandLine

end OutageLedger
