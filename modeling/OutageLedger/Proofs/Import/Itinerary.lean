import OutageLedger.Proofs.Import.Fetching
import OutageLedger.Proofs.Import.World

/-
  The way of a run over the pages of a service. `Provider.trip` goes from page to page without a store, a
  clock or ids, and does nothing with the alerts. Main statement: `World.follows_trip`, in any world, and
  whether alerts are taken in or only counted, a run asks for the pages of the trip, is answered as on the
  trip, ends as the trip does, and leaves the service as the trip leaves it. What two runs do with a service
  is compared on their trips.
-/

namespace OutageLedger

/-- The alerts in an answer to a request for a page. -/
def alertsIn : Except ProviderError AlertPage → List Alert
  | .ok page => page.alerts
  | .error _ => []

/-- A run over pages fetches the alerts of the pages that arrive. -/
theorem Importer.Paging.fetchedAlerts_eq {source : Source} {dryRun : Bool} {stats : ImportStats}
    {r : FetchRequest} {ts : List ImportTurn} {res : ImportStats × Option ImportError}
    (h : Paging source dryRun stats r ts res) : fetchedAlerts ts = (pageAnswers ts).flatMap alertsIn := by
  induction h with
  | failed stats r e => rfl
  | stopped hall hstop =>
    have hquiet := not_asked_of_quiet hstop.quiet
    rw [fetchedAlerts_page (not_asked_processAll hall), pageAnswers_page (not_asked_processAll hall),
      fetchedAlerts_of_not_asked hquiet, pageAnswers_of_not_asked hquiet]
    rfl
  | @next stats stats' r next page ts us res hall hmore hnext _ ih =>
    have hpause : fetchedAlerts (⟨.pause, ()⟩ :: us) = fetchedAlerts us := rfl
    have hpause' : pageAnswers (⟨.pause, ()⟩ :: us) = pageAnswers us := rfl
    rw [fetchedAlerts_page (not_asked_processAll hall), pageAnswers_page (not_asked_processAll hall),
      hpause, hpause', ih]
    rfl

/-! ## Trips -/

/-- A page that is asked for, and the answer. -/
structure Leg where
  request : FetchRequest
  answer : Except ProviderError AlertPage

/-- The pages asked for, in order, with what ended the trip if it failed, and the service after it. -/
structure Trip (π : Type) where
  legs : List Leg
  failure : Option ImportError
  after : π

namespace Trip

variable {π : Type}

def requests (t : Trip π) : List FetchRequest :=
  t.legs.map (·.request)

def answers (t : Trip π) : List (Except ProviderError AlertPage) :=
  t.legs.map (·.answer)

def alerts (t : Trip π) : List Alert :=
  t.answers.flatMap alertsIn

/-- No page is asked for. -/
def ended (failure : Option ImportError) (x : π) : Trip π :=
  ⟨[], failure, x⟩

/-- The trip with a page before it. -/
def onward (leg : Leg) (t : Trip π) : Trip π :=
  { t with legs := leg :: t.legs }

end Trip

/-- Asks a service for the page of a request, and then for the pages after it. -/
def Provider.trip {π : Type} (p : Provider π) (r : FetchRequest) (h : r.limit ≠ 0) (x : π) : Trip π :=
  match p.answer (.page r) x with
  | (.error e, _, x) => .onward ⟨r, .error e⟩ (.ended (some ⟨r.offset, e⟩) x)
  | (.ok (page : AlertPage), _, x) =>
    if !page.hasMore || page.scanned = 0 then .onward ⟨r, .ok page⟩ (.ended none x)
    else
      match hn : r.next? with
      | none => .onward ⟨r, .ok page⟩ (.ended none x)
      | some next => .onward ⟨r, .ok page⟩ (p.trip next (r.limit_next hn ▸ h) x)
termination_by UInt32.size - r.offset.toNat
decreasing_by
  have h1 := r.toNat_offset_next hn
  have h2 : r.limit.toNat ≠ 0 := fun h0 => h (UInt32.toNat_inj.mp h0)
  have h3 := next.offset.toNat_lt
  have h4 : UInt32.size = 2 ^ 32 := rfl
  omega

/-- The trip of a run, with the limit that is in effect. -/
def Provider.tripOf {π : Type} (p : Provider π) (r : FetchRequest) (x : π) : Trip π :=
  p.trip { r with limit := r.effectiveLimit } r.effectiveLimit_ne_zero x

/-! ## Runs -/

namespace World

variable {π ω α β : Type}

/-- What an importer has to do with a service, and where it leaves it, is as on a trip. -/
structure Follows (w : World ω) (p : Provider π) (importer : Importer (α × Option ImportError)) (x : π)
    (y : ω) (t : Trip π) : Prop where
  requests : pageRequests (importer.turns (w.handler p) (x, y)) = t.requests
  answers : pageAnswers (importer.turns (w.handler p) (x, y)) = t.answers
  failure : (importer.run (w.handler p) (x, y)).1.2 = t.failure
  after : (importer.run (w.handler p) (x, y)).2.1 = t.after

namespace Follows

variable {w : World ω} {p : Provider π} {x x' : π} {y : ω} {t : Trip π}
  {importer : Importer (α × Option ImportError)}

theorem done (res : α × Option ImportError) : w.Follows p (.done res) x y (.ended res.2 x) :=
  ⟨rfl, rfl, rfl, rfl⟩

theorem note {e : Event} (h : w.Follows p importer x y t) :
    w.Follows p (Importer.note e >>= fun _ => importer) x y t :=
  ⟨h.requests, h.answers, h.failure, h.after⟩

theorem pause (h : w.Follows p importer x y t) :
    w.Follows p (Importer.pause >>= fun _ => importer) x y t :=
  ⟨h.requests, h.answers, h.failure, h.after⟩

theorem ask {r : FetchRequest} {answer : Except ProviderError (ProviderQuery.page r).Answer}
    {remarks : List Event}
    {f : Except ProviderError (ProviderQuery.page r).Answer → Importer (α × Option ImportError)}
    (hanswer : p.answer (.page r) x = (answer, remarks, x')) (h : w.Follows p (f answer) x' y t) :
    w.Follows p (Importer.ask (.page r) >>= f) x y (t.onward ⟨r, answer⟩) := by
  have hreply : w.handler p (.ask (.page r)) (x, y) = (answer, x', y) := by
    rw [handler, hanswer]
  have hturns : (Importer.ask (.page r) >>= f).turns (w.handler p) (x, y) =
      ⟨.ask (.page r), answer⟩ :: (f answer).turns (w.handler p) (x', y) := by
    show ⟨.ask (.page r), (w.handler p (.ask (.page r)) (x, y)).1⟩ ::
      (f (w.handler p (.ask (.page r)) (x, y)).1).turns (w.handler p) _ = _
    rw [hreply]
  have hrun : (Importer.ask (.page r) >>= f).run (w.handler p) (x, y) =
      (f answer).run (w.handler p) (x', y) := by
    show (f (w.handler p (.ask (.page r)) (x, y)).1).run (w.handler p) _ = _
    rw [hreply]
  refine ⟨?_, ?_, ?_, ?_⟩
  · rw [hturns]
    exact congrArg (r :: ·) h.requests
  · rw [hturns]
    exact congrArg (answer :: ·) h.answers
  · rw [hrun]
    exact h.failure
  · rw [hrun]
    exact h.after

/-- Work on alerts, whatever comes of it, does not lead off the trip. -/
theorem work {before : Importer β} {f : β → Importer (α × Option ImportError)}
    (hworks : Importer.OnlyWorks before) (h : ∀ b y, w.Follows p (f b) x y t) :
    w.Follows p (before >>= f) x y t := by
  obtain ⟨b, y', hbefore⟩ : ∃ b y', before.run (w.handler p) (x, y) = (b, x, y') :=
    ⟨_, _, run_of_onlyWorks hworks p x y⟩
  have hasked : ∀ t : ImportTurn, t ∈ before.turns (w.handler p) (x, y) → t.isAsked = false :=
    Importer.not_asked_of_onlyWorks hworks (Program.ends_turns _ _ _)
  have hturns : (before >>= f).turns (w.handler p) (x, y) =
      before.turns (w.handler p) (x, y) ++ (f b).turns (w.handler p) (x, y') := by
    rw [Program.turns_bind, hbefore]
  have hrun : (before >>= f).run (w.handler p) (x, y) = (f b).run (w.handler p) (x, y') := by
    rw [Program.run_bind, hbefore]
  refine ⟨?_, ?_, ?_, ?_⟩
  · rw [hturns, pageRequests_append, pageRequests_of_not_asked hasked]
    exact (h b y').requests
  · rw [hturns, pageAnswers_append, pageAnswers_of_not_asked hasked]
    exact (h b y').answers
  · rw [hrun]
    exact (h b y').failure
  · rw [hrun]
    exact (h b y').after

end Follows

variable (w : World ω) (p : Provider π) (source : Source) (dryRun : Bool) (stats : ImportStats)
  (r : FetchRequest) (x : π) (y : ω)

theorem follows_walk (h : r.limit ≠ 0) :
    w.Follows p (Importer.walk source dryRun stats r h) x y (p.trip r h x) := by
  fun_induction p.trip r h x generalizing stats y with
  | case1 r h x e remarks x' hanswer =>
    rw [Importer.walk]
    refine Follows.ask hanswer ?_
    exact .done (stats, _)
  | case2 r h x page remarks x' hanswer hlast =>
    rw [Importer.walk]
    refine Follows.ask hanswer ?_
    refine .note (.work (Importer.onlyWorks_processAll _ _) fun stats' y' => ?_)
    rw [if_pos hlast]
    exact .done (stats', none)
  | case3 r h x page remarks x' hanswer hmore hnone =>
    rw [Importer.walk]
    refine Follows.ask hanswer ?_
    refine .note (.work (Importer.onlyWorks_processAll _ _) fun stats' y' => ?_)
    rw [if_neg hmore]
    split
    · exact .note (.done (stats', none))
    · rename_i next hsome
      cases hnone.symm.trans hsome
  | case4 r h x page remarks x' hanswer hmore next hnext ih =>
    rw [Importer.walk]
    refine Follows.ask hanswer ?_
    refine .note (.work (Importer.onlyWorks_processAll _ _) fun stats' y' => ?_)
    rw [if_neg hmore]
    split
    · rename_i hnone
      cases hnext.symm.trans hnone
    · rename_i next' hsome
      cases hnext.symm.trans hsome
      exact .pause (ih stats' y')

/-- In any world, and whether alerts are taken in or only counted, a run goes the way of the trip. -/
theorem follows_trip :
    w.Follows p (Importer.backfill source dryRun stats r) x y (p.tripOf r x) :=
  w.follows_walk p source dryRun stats _ x y r.effectiveLimit_ne_zero

end World

end OutageLedger
