import OutageLedger.Proofs.Command.Surroundings
import OutageLedger.Proofs.Except

/-
  What comes before the work of the command. It reads its arguments, the mode and the configuration, and makes a
  client for the service; only then does it begin. Main statement: `course`, a run prints the help, or fails before it
  has any effect, or is that of the mode (`Course`).
-/

namespace OutageLedger

open Command

/-! ## Configuration -/

/-- A configuration depends on no other variables. -/
theorem Config.load_congr {path : String} {file : Except FileError (List UInt8)}
    {lookup lookup' : String → Option String} (h : ∀ name ∈ variableNames, lookup name = lookup' name) :
    load path file lookup = load path file lookup' := by
  have hnonEmpty : ∀ name ∈ variableNames, nonEmpty lookup name = nonEmpty lookup' name := by
    intro name hname
    unfold nonEmpty
    rw [h name hname]
  have hsection : ∀ source given, overrideBy lookup source given = overrideBy lookup' source given := by
    intro source given
    unfold overrideBy
    rw [hnonEmpty (keyVariable source) (by cases source <;> decide),
      hnonEmpty (urlVariable source) (by cases source <;> decide)]
  unfold load applyEnvironment
  simp only [hsection, hnonEmpty databaseVariable (by decide)]

namespace Surroundings

variable {δ κ τ : Type} (w : Surroundings δ κ τ)

/-- The values of variables are those that the environment has. -/
theorem lookup_valuesOf {names : List String} {name : String} (s : τ × δ × κ)
    (h : name ∈ names ∨ w.environment name = none) :
    ((valuesOf names).run w.handler s).1.lookup name = w.environment name := by
  induction names with
  | nil => exact (h.resolve_left List.not_mem_nil).symm
  | cons other names ih =>
    have hvalues : ((valuesOf (other :: names)).run w.handler s).1 =
        ((w.environment other).toList.map fun v => (other, v)) ++ ((valuesOf names).run w.handler s).1 := by
      show ((valuesOf names >>= _).run w.handler s).1 = _
      rw [Program.run_bind]
      rfl
    rw [hvalues]
    cases hother : w.environment other with
    | none =>
      refine ih ?_
      rcases h with hmem | hnone
      · rcases List.mem_cons.mp hmem with rfl | hmem
        · exact Or.inr hother
        · exact Or.inl hmem
      · exact Or.inr hnone
    | some value =>
      by_cases heq : name = other
      · rw [heq, hother]
        exact List.lookup_cons_self
      · rw [← ih (h.imp_left fun hmem => (List.mem_cons.mp hmem).resolve_left heq)]
        show List.lookup name ((other, value) :: _) = _
        rw [List.lookup_cons, beq_false_of_ne heq]
        rfl

theorem execute_loadConfig (path : String) (s : τ × δ × κ) :
    w.execute (loadConfig path) s =
      ⟨Config.load path (w.contentsOf path s.2.1) w.environment, s, []⟩ := by
  have hvalues : ((loadConfig path).run w.handler s).1 =
      Config.load path (w.contentsOf path s.2.1)
        fun name => ((valuesOf Config.variableNames).run w.handler s).1.lookup name := by
    show ((valuesOf Config.variableNames >>= _).run w.handler s).1 = _
    rw [Program.run_bind]
    rfl
  rw [w.execute_of_quiet (isQuiet_loadConfig path), hvalues,
    Config.load_congr fun name hname => w.lookup_valuesOf s (Or.inl hname)]

end Surroundings

/-! ## Steps -/

/-- What the command has at hand when it begins with its work. -/
structure Preparation where
  line : CommandLine
  mode : Mode
  config : Config
  settings : ProviderSettings
  client : ProviderClient

namespace Surroundings

variable {δ κ τ : Type} (w : Surroundings δ κ τ)

/-- The arguments are read, they ask for something, the configuration is loaded, it has a key for the service, and a
client is made with it. -/
structure Prepares (arguments : List String) (d : δ) (time : Instant) (p : Preparation) : Prop where
  line : CommandLine.ofArguments arguments (w.environment configVariable) = .ok p.line
  mode : p.line.mode time = .ok p.mode
  config : Config.load p.line.config (w.contentsOf p.line.config d) w.environment = .ok p.config
  settings : p.config.provider p.line.service = .ok p.settings
  client : ProviderClient.ofSettings p.line.service p.settings = .ok p.client

variable {w} in
/-- Each step has one result. -/
theorem Prepares.unique {arguments : List String} {d : δ} {time : Instant} {p p' : Preparation}
    (h : w.Prepares arguments d time p) (h' : w.Prepares arguments d time p') : p = p' := by
  obtain ⟨line, mode, config, settings, client⟩ := p
  obtain ⟨line', mode', config', settings', client'⟩ := p'
  obtain rfl : line = line' := Except.ok.inj (h.line.symm.trans h'.line)
  obtain rfl : mode = mode' := Except.ok.inj (h.mode.symm.trans h'.mode)
  obtain rfl : config = config' := Except.ok.inj (h.config.symm.trans h'.config)
  obtain rfl : settings = settings' := Except.ok.inj (h.settings.symm.trans h'.settings)
  obtain rfl : client = client' := Except.ok.inj (h.client.symm.trans h'.client)
  rfl

end Surroundings

theorem clientFor_eq_ok_iff {source : Source} {c : Config} {client : ProviderClient} :
    clientFor source c = .ok client ↔
      ∃ settings, c.provider source = .ok settings ∧ ProviderClient.ofSettings source settings = .ok client := by
  unfold clientFor
  cases c.provider source with
  | error e => simp
  | ok settings => simp [mapError_eq_ok_iff]

/-! ## Ways -/

/-- The status that a result is reported with. -/
def Execution.reported {σ : Type} (e : Execution σ (Except CommandError Unit)) : Execution σ ExitStatus :=
  { e with result := match e.result with
      | .ok () => .success
      | .error _ => .failure }

namespace Surroundings

variable {δ κ τ : Type} (w : Surroundings δ κ τ) (x : τ) (d : δ) (k : κ)

/-- The ways that a run may take. -/
inductive Course (arguments : List String) : Execution (τ × δ × κ) ExitStatus → Prop
  | helped (h : CommandLine.ofArguments arguments (w.environment configVariable) = .error .helpRequested) :
    Course arguments ⟨.success, (x, d, k), [.printed UsageError.help]⟩
  | refused (status : ExitStatus) {k' : κ} (hstatus : status ≠ .success)
      (h : ∀ p, ¬w.Prepares arguments d (w.now k).1 p) : Course arguments ⟨status, (x, d, k'), []⟩
  | begun {p : Preparation} (h : w.Prepares arguments d (w.now k).1 p) (filter : LogFilter) :
    Course arguments
      (w.execute (perform filter p.client p.config.database p.mode) (x, d, (w.now k).2)).reported

theorem execute_getVariable_bind {α : Type} (name : String) (f : Option String → Command α) (s : τ × δ × κ) :
    w.execute (getVariable name >>= f) s = w.execute (f (w.environment name)) s :=
  rfl

theorem execute_now_bind {α : Type} (f : Instant → Command α) :
    w.execute (Command.now >>= f) (x, d, k) = w.execute (f (w.now k).1) (x, d, (w.now k).2) :=
  rfl

theorem execute_loadConfig_bind {α : Type} (path : String) (f : Except ConfigError Config → Command α)
    (s : τ × δ × κ) :
    w.execute (loadConfig path >>= f) s =
      w.execute (f (Config.load path (w.contentsOf path s.2.1) w.environment)) s := by
  rw [execute_bind, execute_loadConfig]
  rfl

/-- What is reported of a result has no effect. -/
theorem execute_report (p : Command (Except CommandError Unit)) (s : τ × δ × κ) :
    w.execute
      (p >>= fun
        | .ok () => pure .success
        | .error e => printError e.report >>= fun _ => pure .failure) s = (w.execute p s).reported := by
  rw [execute_bind_quiet]
  · unfold Execution.reported
    cases (w.execute p s).result <;> rfl
  · intro result
    cases result with
    | ok u => exact trivial
    | error e => exact ⟨rfl, fun _ => trivial⟩

theorem course_of_line {arguments : List String} {c : CommandLine}
    (h : CommandLine.ofArguments arguments (w.environment configVariable) = .ok c) :
    w.Course x d k arguments (w.execute (Command.execute c) (x, d, k)).reported := by
  have hline : ∀ p, w.Prepares arguments d (w.now k).1 p → p.line = c := fun p hp =>
    Except.ok.inj (hp.line.symm.trans h)
  unfold Command.execute
  rw [w.execute_bind_of_quiet isQuiet_logFilter, execute_now_bind]
  split
  · rename_i e hmode
    refine .refused .failure (by decide) fun p hp => ?_
    cases hmode.symm.trans (hline p hp ▸ hp.mode)
  · rename_i mode hmode
    rw [execute_loadConfig_bind]
    split
    · rename_i e hconfig
      refine .refused .failure (by decide) fun p hp => ?_
      cases hconfig.symm.trans (hline p hp ▸ hp.config)
    · rename_i config hconfig
      split
      · rename_i e hclient
        refine .refused .failure (by decide) fun p hp => ?_
        have hmade := clientFor_eq_ok_iff.mpr ⟨p.settings, hp.settings, hp.client⟩
        obtain rfl : p.config = config := Except.ok.inj ((hline p hp ▸ hp.config).symm.trans hconfig)
        cases hclient.symm.trans (hline p hp ▸ hmade)
      · rename_i client hclient
        obtain ⟨settings, hsettings, hmade⟩ := clientFor_eq_ok_iff.mp hclient
        exact .begun (p := ⟨c, mode, config, settings, client⟩) ⟨h, hmode, hconfig, hsettings, hmade⟩ _

/-- A run takes one of the ways. -/
theorem course (arguments : List String) :
    w.Course x d k arguments (w.execute (importHistory arguments) (x, d, k)) := by
  unfold importHistory
  rw [execute_getVariable_bind]
  split
  · rename_i h
    exact .helped h
  · rename_i e he h
    rw [w.execute_bind_of_quiet (p := printError e.report) ⟨rfl, fun _ => trivial⟩]
    refine .refused .misuse (by decide) fun p hp => ?_
    cases h.symm.trans hp.line
  · rename_i c h
    have hcourse := w.course_of_line x d k h
    rw [← execute_report] at hcourse
    exact hcourse

variable {w} {arguments : List String} {d k}

/-- A command that is prepared gets to the work of its mode. -/
theorem Prepares.exists_execute_eq {p : Preparation} (h : w.Prepares arguments d (w.now k).1 p) :
    ∃ filter, w.execute (importHistory arguments) (x, d, k) =
      (w.execute (perform filter p.client p.config.database p.mode) (x, d, (w.now k).2)).reported := by
  have hcourse := w.course x d k arguments
  generalize w.execute (importHistory arguments) (x, d, k) = run at hcourse ⊢
  cases hcourse with
  | helped hhelp => cases hhelp.symm.trans h.line
  | refused status hstatus hnot => exact absurd h (hnot p)
  | @begun p' h' filter =>
    obtain rfl := h'.unique h
    exact ⟨filter, rfl⟩

end Surroundings

end OutageLedger
