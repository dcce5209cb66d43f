import OutageLedger.Command.Dispatch
import OutageLedger.Proofs.Import.World
import OutageLedger.Proofs.Program.Turns

/-
  What the command runs in, and the effects that it has there. Its surroundings may answer its calls in any way;
  of a run, the effects are kept: the requests, what is done with the database, and what is printed, in order.
  Main statements: `disk_execute`, the files stay as they are unless the database is opened or called,
  `execute_of_quiet`, a quiet program changes nothing and has no effect, and `execute_ofImporter`, an importer
  that asks through a client does what it does beside the service behind the client.
-/

namespace OutageLedger

/-- What a command runs in: an environment, files with the database among them, a clock with a supply of ids, and a
network. The files, the clock and the network may each keep a state of their own. -/
structure Surroundings (δ κ τ : Type) where
  environment : String → Option String
  contentsOf : String → δ → Except FileError (List UInt8)
  openStore : String → δ → Except BackendError Unit × δ
  store : (c : StoreCall) → δ → Except StoreError c.Answer × δ
  now : κ → Instant × κ
  newId : κ → Uuid × κ
  send : Transport τ

/-- What a command does that shows outside: to the network, to the database, and on the output. -/
inductive CommandEffect
  | sent (request : HttpRequest)
  | opened (path : String)
  | stored (c : StoreCall) (answer : Except StoreError c.Answer)
  | printed (text : String)

namespace CommandEffect

/-- The effect is one on the database. -/
def isOnDisk : CommandEffect → Bool
  | opened _ | stored .. => true
  | sent _ | printed _ => false

/-- The effect of a turn of the command. -/
def ofTurn? : Program.Turn commanding → Option CommandEffect
  | ⟨.send request, _⟩ => some (sent request)
  | ⟨.openStore path, _⟩ => some (opened path)
  | ⟨.store c, answer⟩ => some (stored c answer)
  | ⟨.print text, _⟩ => some (printed text)
  | _ => none

/-- The effect of a turn of an importer that asks through a client. -/
def ofImportTurn? (client : ProviderClient) : ImportTurn → Option CommandEffect
  | ⟨.ask q, _⟩ => (client.request q).toOption.map sent
  | ⟨.store c, answer⟩ => some (stored c answer)
  | _ => none

end CommandEffect

/-! ## Executions -/

/-- What a run comes to: its result, the state that it leaves, and its effects in order. -/
structure Execution (σ α : Type) where
  result : α
  state : σ
  effects : List CommandEffect

namespace Execution

variable {δ κ τ α : Type}

/-- The files that are left, with the database. -/
def disk (e : Execution (τ × δ × κ) α) : δ :=
  e.state.2.1

/-- The run after some effects. -/
def after {σ : Type} (before : List CommandEffect) (e : Execution σ α) : Execution σ α :=
  { e with effects := before ++ e.effects }

end Execution

namespace Surroundings

variable {δ κ τ α β : Type} (w : Surroundings δ κ τ)

/-- Pauses and what is printed leave all as it is. -/
def handler : Handler commanding (τ × δ × κ)
  | .getVariable name, s => (w.environment name, s)
  | .contentsOf path, s => (w.contentsOf path s.2.1, s)
  | .openStore path, (x, d, k) => ((w.openStore path d).1, x, (w.openStore path d).2, k)
  | .store c, (x, d, k) => ((w.store c d).1, x, (w.store c d).2, k)
  | .send request, (x, y) => ((w.send request x).1, (w.send request x).2, y)
  | .now, (x, d, k) => ((w.now k).1, x, d, (w.now k).2)
  | .newId, (x, d, k) => ((w.newId k).1, x, d, (w.newId k).2)
  | .pause, s | .log _, s | .print _, s | .printError _, s => ((), s)

def execute (p : Command α) (s : τ × δ × κ) : Execution (τ × δ × κ) α :=
  ⟨(p.run w.handler s).1, (p.run w.handler s).2, (p.turns w.handler s).filterMap CommandEffect.ofTurn?⟩

theorem execute_bind (p : Command α) (f : α → Command β) (s : τ × δ × κ) :
    w.execute (p >>= f) s =
      (w.execute (f (w.execute p s).result) (w.execute p s).state).after (w.execute p s).effects := by
  unfold execute Execution.after
  rw [Program.run_bind, Program.turns_bind, List.filterMap_append]

/-- What does nothing to the database leaves the files as they are. -/
theorem disk_execute {p : Command α} {s : τ × δ × κ}
    (hp : ∀ e ∈ (w.execute p s).effects, e.isOnDisk = false) : (w.execute p s).disk = s.2.1 := by
  induction p generalizing s with
  | done a => rfl
  | call c next ih =>
    have hnext : ∀ e ∈ (w.execute (next (w.handler c s).1) (w.handler c s).2).effects, e.isOnDisk = false := by
      intro e he
      obtain ⟨t, ht, heffect⟩ := List.mem_filterMap.mp he
      exact hp e (List.mem_filterMap.mpr ⟨t, List.mem_cons_of_mem _ ht, heffect⟩)
    refine (ih _ hnext).trans ?_
    cases c with
    | openStore path => cases hp (.opened path) List.mem_cons_self
    | store c => cases hp (.stored c _) List.mem_cons_self
    | _ => rfl

end Surroundings

/-! ## Quiet programs -/

/-- The call has no effect, and leaves all as it is. -/
def CommandCall.isQuiet : CommandCall → Bool
  | getVariable _ | contentsOf _ | log _ | printError _ => true
  | _ => false

namespace Command

variable {α : Type}

/-- Only quiet calls are made. -/
abbrev IsQuiet (p : Command α) : Prop :=
  p.Makes fun c => CommandCall.isQuiet c = true

theorem isQuiet_printErrors (texts : List String) : IsQuiet (printErrors texts) := by
  induction texts with
  | nil => exact trivial
  | cons text texts ih => exact ⟨rfl, fun _ => ih⟩

theorem isQuiet_firstVariable (names : List String) : IsQuiet (firstVariable names) := by
  induction names with
  | nil => exact trivial
  | cons name names ih =>
    refine ⟨rfl, fun value => ?_⟩
    cases value with
    | none => exact ih
    | some value => exact trivial

theorem isQuiet_logFilter : IsQuiet logFilter :=
  (isQuiet_firstVariable filterVariables).bind fun _ => (isQuiet_printErrors _).bind fun _ => trivial

theorem isQuiet_valuesOf (names : List String) : IsQuiet (valuesOf names) := by
  induction names with
  | nil => exact trivial
  | cons name names ih => exact ⟨rfl, fun _ => ih.bind fun _ => trivial⟩

theorem isQuiet_loadConfig (path : String) : IsQuiet (loadConfig path) :=
  ⟨rfl, fun _ => (isQuiet_valuesOf Config.variableNames).bind fun _ => trivial⟩

theorem isQuiet_note (filter : LogFilter) (e : Event) : IsQuiet (note filter e) := by
  unfold note
  split
  · exact ⟨rfl, fun _ => trivial⟩
  · exact trivial

theorem isQuiet_noteAll (filter : LogFilter) (es : List Event) : IsQuiet (noteAll filter es) := by
  induction es with
  | nil => exact trivial
  | cons e es ih => exact (isQuiet_note filter e).bind fun _ => ih

end Command

namespace Surroundings

open Command

variable {δ κ τ α β : Type} (w : Surroundings δ κ τ)

theorem execute_of_quiet {p : Command α} (hp : IsQuiet p) (s : τ × δ × κ) :
    w.execute p s = ⟨(p.run w.handler s).1, s, []⟩ := by
  induction p with
  | done a => rfl
  | call c next ih =>
    obtain ⟨hc, hnext⟩ := hp
    cases c with
    | getVariable name => exact ih _ (hnext _)
    | contentsOf path => exact ih _ (hnext _)
    | log e => exact ih _ (hnext _)
    | printError text => exact ih _ (hnext _)
    | _ => cases hc

theorem execute_bind_of_quiet {p : Command α} (hp : IsQuiet p) (f : α → Command β) (s : τ × δ × κ) :
    w.execute (p >>= f) s = w.execute (f (p.run w.handler s).1) s := by
  rw [execute_bind, w.execute_of_quiet hp]
  rfl

/-- What is quiet only changes the result of what comes before it. -/
theorem execute_bind_quiet {f : α → Command β} (hf : ∀ a, IsQuiet (f a)) (p : Command α) (s : τ × δ × κ) :
    w.execute (p >>= f) s =
      { w.execute p s with result := ((f (w.execute p s).result).run w.handler (w.execute p s).state).1 } := by
  rw [execute_bind, w.execute_of_quiet (hf _), Execution.after, List.append_nil]

/-! ## Importers -/

/-- What an importer meets there besides a paging service. -/
def world : World (δ × κ) where
  store c y := ((w.store c y.1).1, (w.store c y.1).2, y.2)
  now y := ((w.now y.2).1, y.1, (w.now y.2).2)
  newId y := ((w.newId y.2).1, y.1, (w.newId y.2).2)

/-- The paging service that is reached through a client. -/
abbrev service (client : ProviderClient) : Provider τ :=
  .ofClient client w.send

variable (filter : LogFilter) (client : ProviderClient)

/-- A question comes to the answer of the service. What shows of it is the request, if there is one. -/
theorem execute_ask (q : ProviderQuery) (x : τ) (y : δ × κ) :
    w.execute (ask filter client q) (x, y) =
      ⟨((w.service client).answer q x).1, (((w.service client).answer q x).2.2, y),
        ((client.request q).toOption.map .sent).toList⟩ := by
  unfold ask
  cases hrequest : client.request q with
  | error e =>
    have hanswer : (w.service client).answer q x = (.error (e.providerError client.source), [], x) := by
      simp only [Provider.ofClient, hrequest]
    rw [hanswer]
    rfl
  | ok request =>
    have hanswer : (w.service client).answer q x =
        (client.source.answer q (w.send request x).1, client.source.remarks q (w.send request x).1,
          (w.send request x).2) := by
      simp only [Provider.ofClient, hrequest]
    rw [hanswer]
    show w.execute (Command.send request >>= _) (x, y) = _
    rw [execute_bind]
    exact congrArg (Execution.after [.sent request]) (w.execute_bind_of_quiet (isQuiet_noteAll filter _) _ _)

/-- What the command does where an importer makes a call comes to the call itself. -/
theorem execute_carryOut (c : ImportCall) (s : τ × δ × κ) :
    w.execute (carryOut filter client c) s =
      ⟨(w.world.handler (w.service client) c s).1, (w.world.handler (w.service client) c s).2,
        (CommandEffect.ofImportTurn? client ⟨c, (w.world.handler (w.service client) c s).1⟩).toList⟩ := by
  cases c with
  | ask q => exact w.execute_ask filter client q s.1 s.2
  | note e => exact w.execute_of_quiet (isQuiet_note filter e) s
  | _ => rfl

theorem handler_carryOut :
    (fun c s => (carryOut filter client c).run w.handler s) = w.world.handler (w.service client) := by
  funext c s
  have hcall := w.execute_carryOut filter client c s
  exact Prod.ext (congrArg Execution.result hcall) (congrArg Execution.state hcall)

/-- An importer does what it does beside the service behind the client, and what shows of it is what shows of its
turns. -/
theorem execute_ofImporter (importer : Importer α) (s : τ × δ × κ) :
    w.execute (ofImporter filter client importer) s =
      ⟨(importer.run (w.world.handler (w.service client)) s).1,
        (importer.run (w.world.handler (w.service client)) s).2,
        (importer.turns (w.world.handler (w.service client)) s).filterMap
          (CommandEffect.ofImportTurn? client)⟩ := by
  have hcalls : ∀ c s, ((carryOut filter client c).turns w.handler s).filterMap CommandEffect.ofTurn? =
      (CommandEffect.ofImportTurn? client ⟨c, ((carryOut filter client c).run w.handler s).1⟩).toList := by
    intro c s
    have hcall := w.execute_carryOut filter client c s
    rw [← w.handler_carryOut filter client] at hcall
    exact congrArg Execution.effects hcall
  unfold ofImporter execute
  rw [Program.run_interpret, Program.filterMap_turns_interpret _ _ hcalls, handler_carryOut]

theorem execute_ofImporter_bind (importer : Importer α) (f : α → Command β) (s : τ × δ × κ) :
    w.execute (ofImporter filter client importer >>= f) s =
      (w.execute (f (importer.run (w.world.handler (w.service client)) s).1)
        (importer.run (w.world.handler (w.service client)) s).2).after
          ((importer.turns (w.world.handler (w.service client)) s).filterMap
            (CommandEffect.ofImportTurn? client)) := by
  rw [execute_bind, execute_ofImporter]

end Surroundings

end OutageLedger
