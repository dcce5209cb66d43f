import OutageLedger.Proofs.CommandLine.Settings

/-
  What command lines ask for. Main statements: `accepted_has_mode`, every command line that is accepted asks for one
  of three things, which its arguments show, and `outage_kept_with_alert`, an outage that is given is the target of
  the alert that is given with it. Without an alert it is passed over, in a preview for one (`outage_passed_over`).
-/

namespace OutageLedger

/-! ## Batch sizes -/

theorem readBatchSize_bounds {s : String} {n : UInt32} (h : readBatchSize s = .ok n) :
    1 ≤ n.toNat ∧ n.toNat ≤ maxBatchSize := by
  unfold readBatchSize at h
  rw [bind_eq_ok_iff] at h
  obtain ⟨i, -, h⟩ := h
  split at h
  · rename_i hrange
    have hn : n = .ofNat i.toNat := (Except.ok.inj h).symm
    have hsmall : i.toNat < UInt32.size := by
      have hsize : maxBatchSize < UInt32.size := by decide
      omega
    rw [hn, UInt32.toNat_ofNat_of_lt' hsmall]
    omega
  · cases h

namespace CommandLine

/-! ## Modes -/

/-- What a command line asks for that keeps to the rules, with the settings which make it so. -/
inductive AsksFor (c : CommandLine) (now : Instant) : Mode → Prop
  | listTeams (hteams : c.listTeams = true) (halert : c.alert = none) : AsksFor c now .listTeams
  | live {id : String} (hteams : c.listTeams = false) (hdry : c.dryRun = false) (halert : c.alert = some id) :
      AsksFor c now (.live id c.outage)
  | backfill {since : Instant} (hteams : c.listTeams = false) (halert : c.alert = none)
      (hsince : c.since = some since) :
      AsksFor c now (.backfill ⟨since, some (c.upTo.getD now), c.teamIds, c.batchSize, 0⟩ c.dryRun)

theorem AsksFor.mode_eq {c : CommandLine} {now : Instant} {m : Mode} (h : c.AsksFor now m) : c.mode now = .ok m := by
  unfold mode
  cases h with
  | listTeams hteams _ => rw [if_pos hteams]
  | live hteams _ halert => rw [if_neg (Bool.eq_false_iff.mp hteams), halert]
  | backfill hteams halert hsince => rw [if_neg (Bool.eq_false_iff.mp hteams), halert, hsince]

namespace Follows

variable {c : CommandLine} {arguments : List String} {environment : Option String}
  (h : c.Follows arguments environment)

include h

theorem isSome_alert_iff : c.alert.isSome = true ↔ ∃ id, Flag.alert.IsSet arguments id :=
  h.alert.isSome_iff

theorem batchSize_bounds : 1 ≤ c.batchSize.toNat ∧ c.batchSize.toNat ≤ maxBatchSize := by
  obtain ⟨given, hsaid, heq⟩ := h.batchSize
  rw [heq]
  cases given with
  | none => decide
  | some n =>
    obtain ⟨s, hset⟩ := hsaid.isSome_iff.mp rfl
    exact readBatchSize_bounds (toOption_eq_some_iff.mp (hsaid.read s hset))

theorem exists_asksFor (now : Instant) : ∃ m, c.AsksFor now m := by
  cases halert : c.alert with
  | some id =>
    obtain ⟨hteams, hdry⟩ := h.alertExcludes (Option.isSome_of_eq_some halert)
    exact ⟨_, .live hteams hdry halert⟩
  | none =>
    cases hteams : c.listTeams with
    | true => exact ⟨_, .listTeams hteams halert⟩
    | false =>
      have hstart := h.needsStart
      rw [halert, hteams] at hstart
      obtain ⟨since, hsince⟩ := Option.isSome_iff_exists.mp (by simpa using hstart)
      exact ⟨_, .backfill hteams halert hsince⟩

end Follows

/-- Every accepted command line asks for something, whatever the environment says and the time is: for the teams if it
is told to list them, for one alert if it is given one, and else for a window, whose start is given. The window ends
where it is said to, or now; its pages are of the size that is given, or of the default size, and from 1 to 10000
alerts long; it is asked for from its first alert on, and for the teams that are named, or all of them. A preview is
never one of a single alert. -/
theorem accepted_has_mode {c : CommandLine} {arguments : List String} {environment : Option String}
    (h : ofArguments arguments environment = .ok c) (now : Instant) :
    ∃ m, c.mode now = .ok m ∧
      (m = .listTeams ↔ Flag.listTeams.IsOn arguments) ∧
      ((∃ id outage, m = .live id outage) ↔ ∃ id, Flag.alert.IsSet arguments id) ∧
      ((∃ request dryRun, m = .backfill request dryRun) ↔
        ¬ Flag.listTeams.IsOn arguments ∧ ¬ ∃ id, Flag.alert.IsSet arguments id) ∧
      (∀ request dryRun, m = .backfill request dryRun →
        (∃ s, Flag.since.IsSet arguments s) ∧ Flag.since.Says arguments (some request.since) ∧
        (∃ given : Option Instant, Flag.upTo.Says arguments given ∧ request.upTo = some (given.getD now)) ∧
        (∃ given : Option String, Flag.teams.Says arguments given ∧
          request.teamIds = (given.map idsOfText).getD []) ∧
        (∃ given : Option UInt32, Flag.batchSize.Says arguments given ∧
          request.limit = given.getD defaultLimit) ∧
        1 ≤ request.limit.toNat ∧ request.limit.toNat ≤ 10000 ∧ request.offset = 0 ∧
        (dryRun = true ↔ Flag.dryRun.IsOn arguments)) ∧
      (Flag.dryRun.IsOn arguments → ∀ id outage, m ≠ .live id outage) := by
  have hfollows := follows_of_ofArguments h
  obtain ⟨m, hm⟩ := hfollows.exists_asksFor now
  refine ⟨m, hm.mode_eq, ?_⟩
  rw [← hfollows.isSome_alert_iff, ← hfollows.listTeams, ← hfollows.dryRun]
  cases hm with
  | listTeams hteams halert => simp [hteams, halert]
  | live hteams hdry halert => simp [hteams, hdry, halert]
  | @backfill since hteams halert hsince =>
    refine ⟨by simp [hteams], by simp [halert], by simp [hteams, halert], ?_, by simp⟩
    rintro _ _ ⟨⟩
    have hsaid := hfollows.since
    rw [hsince] at hsaid
    obtain ⟨hlow, hhigh⟩ := hfollows.batchSize_bounds
    refine ⟨hsaid.isSome_iff.mp rfl, hsaid, ⟨_, hfollows.upTo, rfl⟩, ⟨_, hfollows.teams, ?_⟩, hfollows.batchSize,
      hlow, hhigh, rfl, Iff.rfl⟩
    unfold teamIds
    cases c.teams <;> rfl

end CommandLine

namespace Sample

/-- A preview of a window that begins at midnight in UTC, in pages of 25 alerts. -/
def previewArguments : List String :=
  ["--batch-size=25", "--service", "opsgenie", "--since", "2024-01-01T02:00:00+02:00", "--dry-run", "--"]

def midnight : Instant :=
  (Instant.ofParts? 1704067200 0).getD .epoch

def preview : CommandLine :=
  ⟨.opsGenie, some midnight, none, none, false, true, "config.yaml", 25, none, none⟩

end Sample

/-- A window without an end, which ends when it is asked for. -/
theorem accepted_has_mode_of_preview :
    CommandLine.ofArguments Sample.previewArguments none = .ok Sample.preview ∧
      Sample.preview.mode .epoch = .ok (.backfill ⟨Sample.midnight, some .epoch, [], 25, 0⟩ true) ∧
      Flag.since.Says Sample.previewArguments (some Sample.midnight) ∧
      Flag.dryRun.IsOn Sample.previewArguments ∧ ¬ Flag.listTeams.IsOn Sample.previewArguments ∧
      ¬ ∃ id, Flag.alert.IsSet Sample.previewArguments id := by
  have haccepted : CommandLine.ofArguments Sample.previewArguments none = .ok Sample.preview :=
    toOption_eq_some_iff.mp (by decide +kernel)
  have hmode : Sample.preview.mode .epoch = .ok (.backfill ⟨Sample.midnight, some .epoch, [], 25, 0⟩ true) := rfl
  obtain ⟨m, hm, -, -, hwindow, hsettings, -⟩ := CommandLine.accepted_has_mode haccepted .epoch
  obtain rfl := Except.ok.inj (hm.symm.trans hmode)
  obtain ⟨-, hsince, -, -, -, -, -, -, hdry⟩ := hsettings _ _ rfl
  obtain ⟨hteams, halert⟩ := hwindow.mp ⟨_, _, rfl⟩
  exact ⟨haccepted, hmode, hsince, hdry.mp rfl, hteams, halert⟩

/-! ## Target outages -/

namespace CommandLine

/-- Without an alert, an outage is asked for in vain. -/
theorem mode_without_outage {c : CommandLine} {now : Instant} (h : c.alert = none) :
    { c with outage := none }.mode now = c.mode now := by
  unfold mode
  rw [h]
  cases c.since <;> rfl

/-- An outage that is given is the target of the alert that is given with it. An alert is required unless the teams
are to be listed or the import is to be previewed, which exclude one: then the outage makes no difference. -/
theorem outage_kept_with_alert {c : CommandLine} {arguments : List String} {environment : Option String}
    (h : ofArguments arguments environment = .ok c) {s : String} (houtage : Flag.outage.IsSet arguments s)
    (now : Instant) :
    ∃ outage, Uuid.ofText s = .ok outage ∧
      ((∃ id, Flag.alert.IsSet arguments id) ↔
        ¬ Flag.listTeams.IsOn arguments ∧ ¬ Flag.dryRun.IsOn arguments) ∧
      (∀ id, Flag.alert.IsSet arguments id → c.mode now = .ok (.live id (some outage))) ∧
      ((¬ ∃ id, Flag.alert.IsSet arguments id) →
        c.mode now = { c with outage := none }.mode now ∧
          (c.mode now = .ok .listTeams ∨ ∃ request, c.mode now = .ok (.backfill request true))) := by
  have hfollows := follows_of_ofArguments h
  obtain ⟨outage, hgiven⟩ := Option.isSome_iff_exists.mp (hfollows.outage.isSome_iff.mpr ⟨s, houtage⟩)
  have hrequires := hfollows.outageRequires (Option.isSome_of_eq_some hgiven)
  rw [← hfollows.isSome_alert_iff, ← hfollows.listTeams, ← hfollows.dryRun]
  refine ⟨outage, toOption_eq_some_iff.mp ((hfollows.outage.read s houtage).trans hgiven), ?_, ?_, ?_⟩
  · constructor
    · intro halert
      simp [hfollows.alertExcludes halert]
    · rintro ⟨hteams, hdry⟩
      exact hrequires.resolve_right fun hor => hor.elim hteams hdry
  · intro id hset
    have halert : c.alert = some id := (hfollows.alert.read id hset).symm
    obtain ⟨hteams, hdry⟩ := hfollows.alertExcludes (Option.isSome_of_eq_some halert)
    have hmode : c.mode now = .ok (.live id c.outage) := (AsksFor.live hteams hdry halert).mode_eq
    rwa [hgiven] at hmode
  · intro hnot
    have halert : c.alert = none := Option.not_isSome_iff_eq_none.mp hnot
    refine ⟨(mode_without_outage halert).symm, ?_⟩
    obtain ⟨m, hm⟩ := hfollows.exists_asksFor now
    rw [hm.mode_eq]
    cases hm with
    | listTeams => exact Or.inl rfl
    | live _ _ hsome =>
      rw [halert] at hsome
      cases hsome
    | backfill hteams _ _ =>
      rw [halert, hteams] at hrequires
      have hdry : c.dryRun = true := by simpa using hrequires
      exact Or.inr ⟨_, by rw [hdry]⟩

end CommandLine

namespace Sample

def target : Uuid :=
  ⟨0x4000800000000000000a, by decide⟩

def targetText : String := "00000000-0000-4000-8000-00000000000a"

/-- An alert for an outage, as it is meant. -/
def alertArguments : List String :=
  ["--outage", targetText, "--service=pagerduty", "--alert", "PT4KHLK"]

def alertLine : CommandLine :=
  ⟨.pagerDuty, none, none, none, false, false, "config.yaml", defaultLimit, some "PT4KHLK", some target⟩

/-- A preview that is given an outage, but no alert. -/
def strayArguments : List String :=
  ["--service", "pagerduty", "--since", "2024-01-01T00:00:00Z", "--dry-run", "--outage", targetText]

def strayLine : CommandLine :=
  ⟨.pagerDuty, some midnight, none, none, false, true, "config.yaml", defaultLimit, none, some target⟩

end Sample

theorem outage_kept_with_alert_of_line :
    CommandLine.ofArguments Sample.alertArguments none = .ok Sample.alertLine ∧
      Flag.outage.IsSet Sample.alertArguments Sample.targetText ∧
      Uuid.ofText Sample.targetText = .ok Sample.target ∧ Flag.alert.IsSet Sample.alertArguments "PT4KHLK" ∧
      Sample.alertLine.mode .epoch = .ok (.live "PT4KHLK" (some Sample.target)) := by
  have haccepted : CommandLine.ofArguments Sample.alertArguments none = .ok Sample.alertLine :=
    toOption_eq_some_iff.mp (by decide +kernel)
  have houtage : Flag.outage.IsSet Sample.alertArguments Sample.targetText :=
    Or.inr ⟨[], ["--service=pagerduty", "--alert", "PT4KHLK"], rfl⟩
  have halert : Flag.alert.IsSet Sample.alertArguments "PT4KHLK" :=
    Or.inr ⟨["--outage", Sample.targetText, "--service=pagerduty"], [], rfl⟩
  have htarget : Uuid.ofText Sample.targetText = .ok Sample.target := toOption_eq_some_iff.mp (by decide +kernel)
  obtain ⟨outage, hread, -, hlive, -⟩ := CommandLine.outage_kept_with_alert haccepted houtage .epoch
  obtain rfl := Except.ok.inj (hread.symm.trans htarget)
  exact ⟨haccepted, houtage, htarget, halert, hlive _ halert⟩

/-- A preview takes an outage without an alert, and it makes no difference to it. -/
theorem outage_passed_over :
    CommandLine.ofArguments Sample.strayArguments none = .ok Sample.strayLine ∧
      Flag.outage.IsSet Sample.strayArguments Sample.targetText ∧
      (¬ ∃ id, Flag.alert.IsSet Sample.strayArguments id) ∧
      Sample.strayLine.mode .epoch =
        .ok (.backfill ⟨Sample.midnight, some .epoch, [], defaultLimit, 0⟩ true) := by
  have haccepted : CommandLine.ofArguments Sample.strayArguments none = .ok Sample.strayLine :=
    toOption_eq_some_iff.mp (by decide +kernel)
  have halert := (CommandLine.follows_of_ofArguments haccepted).isSome_alert_iff
  refine ⟨haccepted, Or.inr ⟨Sample.strayArguments.take 5, [], rfl⟩, fun hset => ?_, rfl⟩
  exact Bool.noConfusion (halert.mpr hset)

end OutageLedger
