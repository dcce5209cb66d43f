import OutageLedger.Proofs.Command.Modes
import OutageLedger.Proofs.CommandLine.Mode
import OutageLedger.Proofs.Import.Abort

/-
  The order of what the command does. Main statement: `effects_in_order`, a run that fails before its work has no
  effect, a run that lists the teams or previews leaves the database alone, a run that writes opens it first and goes
  no further if that fails, and a backfill that gets to its work prints its numbers last, with a status that only the
  pages decide.
-/

namespace OutageLedger

open Command

/-- A command line that is to list the teams or to preview does not ask for a mode that writes. -/
theorem Surroundings.Prepares.not_opensDatabase {δ κ τ : Type} {w : Surroundings δ κ τ} {arguments : List String}
    {d : δ} {time : Instant} {p : Preparation} (h : w.Prepares arguments d time p)
    (hreads : Flag.listTeams.IsOn arguments ∨ Flag.dryRun.IsOn arguments) : p.mode.opensDatabase = false := by
  have hfollows := CommandLine.follows_of_ofArguments h.line
  rw [← hfollows.listTeams, ← hfollows.dryRun] at hreads
  obtain ⟨m, hm⟩ := hfollows.exists_asksFor time
  have hmode : p.mode = m := Except.ok.inj (h.mode.symm.trans hm.mode_eq)
  rw [hmode]
  cases hm with
  | listTeams => rfl
  | live hteams hdry _ => simp [hteams, hdry] at hreads
  | backfill hteams _ _ =>
    have hdry : p.line.dryRun = true := by simpa [hteams] using hreads
    exact congrArg (!·) hdry

/-- What a run of the command does, and in which order, whatever its arguments, its environment, its files, its
database and the replies to its requests are. If it does not get to its work, other than for the help, it has no
effect and does not succeed. If it is to list the teams or only to preview, it leaves the database alone, whatever
comes of it. If it is to write, it opens the database first, and does nothing more if that fails. A backfill that gets
to its work goes over the pages of the service, prints its numbers last, and succeeds exactly if every page arrives,
whatever becomes of the alerts. -/
theorem effects_in_order {δ κ τ : Type} (w : Surroundings δ κ τ) (arguments : List String) (x : τ) (d : δ)
    (k : κ) :
    let run := w.execute (Command.importHistory arguments) (x, d, k)
    let time := (w.now k).1
    ((∀ p, ¬w.Prepares arguments d time p) →
      CommandLine.ofArguments arguments (w.environment Command.configVariable) ≠ .error .helpRequested →
        run.effects = [] ∧ run.disk = d ∧ run.result.code ≠ 0) ∧
    (Flag.listTeams.IsOn arguments ∨ Flag.dryRun.IsOn arguments →
      (∀ e ∈ run.effects, e.isOnDisk = false) ∧ run.disk = d) ∧
    (∀ p e, w.Prepares arguments d time p → p.mode.opensDatabase = true →
      (w.openStore p.config.database d).1 = .error e →
        run.effects = [.opened p.config.database] ∧ run.result.code ≠ 0) ∧
    ∀ p request dryRun, w.Prepares arguments d time p → p.mode = .backfill request dryRun →
      (dryRun = false → (w.openStore p.config.database d).1 = .ok ()) →
        ∃ ts stats, run.Backfills p.client dryRun ((w.service p.client).tripOf request x)
          (if dryRun then [] else [.opened p.config.database]) ts stats := by
  intro run time
  have hcourse : w.Course x d k arguments run := w.course x d k arguments
  refine ⟨fun hfails hhelp => ?_, fun hreads => ?_, fun p e hp hopens herror => ?_,
    fun p request dryRun hp hmode hopen => ?_⟩
  · generalize run = run at hcourse ⊢
    cases hcourse with
    | helped h => exact absurd h hhelp
    | refused status hstatus h => exact ⟨rfl, rfl, fun h0 => hstatus (ExitStatus.code_eq_zero_iff.mp h0)⟩
    | @begun p h filter => exact absurd h (hfails p)
  · have hread : ∀ e ∈ run.effects, e.isOnDisk = false := by
      generalize run = run at hcourse ⊢
      cases hcourse with
      | helped h => exact List.forall_mem_singleton.mpr rfl
      | refused status hstatus h => exact fun e he => absurd he List.not_mem_nil
      | begun h filter => exact w.not_isOnDisk_perform filter _ (h.not_opensDatabase hreads) _ _
    exact ⟨hread, w.disk_execute hread⟩
  · obtain ⟨filter, hrun⟩ := hp.exists_execute_eq x
    obtain ⟨next, hnext⟩ := exists_perform_eq filter p.client hopens p.config.database
    rw [hnext, Surroundings.execute_withDatabase, herror] at hrun
    refine ⟨congrArg Execution.effects hrun, fun h0 => ?_⟩
    have hstatus : run.result = .failure := congrArg Execution.result hrun
    cases hstatus.symm.trans (ExitStatus.code_eq_zero_iff.mp h0)
  · obtain ⟨filter, hrun⟩ := hp.exists_execute_eq x
    show ∃ ts stats, (w.execute _ _).Backfills _ _ _ _ ts stats
    rw [hrun, hmode]
    cases dryRun with
    | true => exact w.exists_backfills filter p.client request true [] x (d, (w.now k).2)
    | false =>
      show ∃ ts stats, (w.execute (withDatabase _ _) _).reported.Backfills _ _ _ _ ts stats
      rw [Surroundings.execute_withDatabase, hopen rfl]
      exact w.exists_backfills filter p.client request false _ x _

namespace Sample

/-- Two pages, of which the second has an incident whose record does not read back. -/
def staleReplies : ℕ → HttpReply
  | 0 => incidentReply "A" "true"
  | _ => incidentReply "B" "false"

/-- Some variables that are set, an empty configuration, and a database where it is looked for if nothing else is
said. -/
def surroundings (settings : List (String × String)) : Surroundings Store ℕ ℕ where
  environment name := settings.lookup name
  contentsOf _ _ := .ok []
  openStore path s := (if path = defaultDatabase then .ok () else .error (.cannotOpen path), s)
  store c s := s.perform c
  now n := (.epoch, n)
  newId n := (id n, n + 1)
  send := .script staleReplies

def keySettings : List (String × String) :=
  [("PAGERDUTY_API_KEY", "a1"), ("PAGERDUTY_API_URL", "http://[::1]")]

/-- The key, and a path where there is no database. -/
def strayedSettings : List (String × String) :=
  ("DB_PATH", "nowhere.db") :: keySettings

def importArguments : List String :=
  ["--service", "pagerduty", "--since", "1970-01-01T00:00:00Z"]

def importLine : CommandLine :=
  ⟨.pagerDuty, some .epoch, none, none, false, false, "config.yaml", defaultLimit, none, none⟩

def importRequest : FetchRequest :=
  ⟨.epoch, some .epoch, [], defaultLimit, 0⟩

def importRun (settings : List (String × String)) (arguments : List String) : Execution (ℕ × Store × ℕ) ExitStatus :=
  (surroundings settings).execute (importHistory arguments) (0, store, 0)

def printedText? : CommandEffect → Option String
  | .printed text => some text
  | _ => none

theorem ofArguments_importArguments : CommandLine.ofArguments importArguments none = .ok importLine :=
  toOption_eq_some_iff.mp (by decide +kernel)

theorem exists_prepares (settings : List (String × String)) (database : String)
    (hpath : settings.lookup configVariable = none)
    (hconfig : Config.load "config.yaml" (.ok []) (surroundings settings).environment =
      .ok ⟨database, some ⟨"a1", some "http://[::1]"⟩, none⟩) :
    ∃ p, (surroundings settings).Prepares importArguments store .epoch p ∧
      p.mode = .backfill importRequest false ∧ p.config.database = database := by
  obtain ⟨client, hclient⟩ : ∃ client,
      (ProviderClient.ofSettings .pagerDuty ⟨"a1", some "http://[::1]"⟩).toOption = some client :=
    Option.isSome_iff_exists.mp (by decide +kernel)
  have hline : CommandLine.ofArguments importArguments (settings.lookup configVariable) = .ok importLine :=
    hpath ▸ ofArguments_importArguments
  exact ⟨⟨importLine, .backfill importRequest false, ⟨database, _, none⟩, _, client⟩,
    ⟨hline, rfl, hconfig, rfl, toOption_eq_some_iff.mp hclient⟩, rfl, rfl⟩

/-- Without a key the command does not get to its work. -/
theorem not_prepares (p : Preparation) : ¬(surroundings []).Prepares importArguments store .epoch p := by
  intro h
  have hconfig : Config.load "config.yaml" (.ok []) (surroundings []).environment =
      .ok ⟨defaultDatabase, none, none⟩ :=
    toOption_eq_some_iff.mp (by decide +kernel)
  obtain ⟨line, mode, config, settings, client⟩ := p
  obtain rfl : line = importLine := Except.ok.inj (h.line.symm.trans ofArguments_importArguments)
  obtain rfl : config = ⟨defaultDatabase, none, none⟩ := Except.ok.inj (h.config.symm.trans hconfig)
  cases h.settings

end Sample

/-- An alert whose record does not read back is counted, and the run succeeds. With a path for the database where there
is none, the same command line only tries to open it, and a preview does not even try; without a key, it does nothing
at all. -/
theorem effects_in_order_of_stale :
    (∃ (p : Preparation) (ts : List ImportTurn) (stats : ImportStats),
      (Sample.importRun Sample.keySettings Sample.importArguments).Backfills p.client false
        (((Sample.surroundings Sample.keySettings).service p.client).tripOf Sample.importRequest 0)
        [.opened defaultDatabase] ts stats) ∧
    (Sample.importRun Sample.keySettings Sample.importArguments).result.code = 0 ∧
    (Sample.importRun Sample.keySettings Sample.importArguments).effects.filterMap Sample.printedText? =
      ["Import completed\nTotal fetched: 2\nNew outages:   1\nNew alerts:    1\nSkipped:       0\n" ++
        "Errors:        1\n"] ∧
    (Sample.importRun Sample.strayedSettings Sample.importArguments).effects = [.opened "nowhere.db"] ∧
    (∀ e ∈ (Sample.importRun Sample.strayedSettings ("--dry-run" :: Sample.importArguments)).effects,
      e.isOnDisk = false) ∧
    (Sample.importRun [] Sample.importArguments).effects = [] := by
  refine ⟨?_, by decide +kernel, by decide +kernel, ?_, ?_, ?_⟩
  · obtain ⟨p, hp, hmode, hdatabase⟩ := Sample.exists_prepares Sample.keySettings defaultDatabase rfl
      (toOption_eq_some_iff.mp (by decide +kernel))
    obtain ⟨-, -, -, hbackfill⟩ := effects_in_order (Sample.surroundings Sample.keySettings)
      Sample.importArguments 0 Sample.store 0
    rw [← hdatabase]
    exact ⟨p, hbackfill p _ _ hp hmode fun _ => hdatabase ▸ rfl⟩
  · obtain ⟨p, hp, hmode, hdatabase⟩ := Sample.exists_prepares Sample.strayedSettings "nowhere.db" rfl
      (toOption_eq_some_iff.mp (by decide +kernel))
    obtain ⟨-, -, hclosed, -⟩ := effects_in_order (Sample.surroundings Sample.strayedSettings)
      Sample.importArguments 0 Sample.store 0
    have herror : ((Sample.surroundings Sample.strayedSettings).openStore p.config.database Sample.store).1 =
        .error (.cannotOpen "nowhere.db") := by
      rw [hdatabase]
      rfl
    obtain ⟨heffects, -⟩ := hclosed p _ hp (hmode ▸ rfl) herror
    rw [hdatabase] at heffects
    exact heffects
  · obtain ⟨-, hreads, -⟩ := effects_in_order (Sample.surroundings Sample.strayedSettings)
      ("--dry-run" :: Sample.importArguments) 0 Sample.store 0
    exact (hreads (Or.inr List.mem_cons_self)).1
  · obtain ⟨hrefused, -⟩ := effects_in_order (Sample.surroundings []) Sample.importArguments 0 Sample.store 0
    refine (hrefused Sample.not_prepares fun h => ?_).1
    cases h.symm.trans Sample.ofArguments_importArguments

end OutageLedger
