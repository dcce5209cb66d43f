import OutageLedger.Proofs.Import.Taken

/-
  Runs over the same pages, again and again. The service sends a fixed sequence of pages, and a run
  fetches some of them from the first on until it is over or a page cannot be fetched, so that what any
  run has fetched is the beginning of what a complete one fetches (`prefix_fetchedAlerts`). Main
  statement: `restart_safe`, after any runs a complete one leaves what a single complete run would have
  left.
-/

namespace OutageLedger

/-! ## Lists taken in more than once -/

theorem knownAfter_of_known {known : List AlertKey} {as : List Alert}
    (h : ∀ a ∈ as, a.key ∈ known) : knownAfter known as = known := by
  unfold knownAfter
  rw [newcomers_eq_nil h, List.map_nil, List.append_nil]

/-- What has been taken in of a list may be taken in again with the list. -/
theorem newcomers_prefix_append {known : List AlertKey} {as bs : List Alert} (h : as <+: bs) :
    newcomers known (as ++ bs) = newcomers known bs := by
  obtain ⟨cs, rfl⟩ := h
  have hknown : ∀ a ∈ as, a.key ∈ knownAfter known as := fun a ha => key_mem_knownAfter ha
  rw [newcomers_append, newcomers_append _ as cs, newcomers_append _ as cs, newcomers_eq_nil hknown,
    knownAfter_of_known hknown, List.nil_append]

theorem newcomers_prefixes_append {known : List AlertKey} {parts : List (List Alert)}
    {bs : List Alert} (h : ∀ as ∈ parts, as <+: bs) :
    newcomers known (parts.flatten ++ bs) = newcomers known bs := by
  induction parts generalizing known with
  | nil => rfl
  | cons as parts ih =>
    rw [List.flatten_cons, List.append_assoc, newcomers_append,
      ih fun p hp => h p (List.mem_cons_of_mem as hp), ← newcomers_append]
    exact newcomers_prefix_append (h as List.mem_cons_self)

/-! ## A fixed sequence of pages -/

/-- All pages that arrive are those of the sequence, from its beginning on. -/
def Follows (pages : Nat → AlertPage) (ts : List ImportTurn) : Prop :=
  ∀ i page, (pageAnswers ts)[i]? = some (.ok page) → page = pages i

theorem follows_cons {pages : Nat → AlertPage} {ts us : List ImportTurn} {page : AlertPage}
    (h : pageAnswers ts = .ok page :: pageAnswers us) (hts : Follows pages ts) :
    page = pages 0 ∧ Follows (fun i => pages (i + 1)) us := by
  unfold Follows at hts
  rw [h] at hts
  exact ⟨hts 0 page rfl, fun i page' hi => hts (i + 1) page' hi⟩

namespace Importer

theorem Stopping.not_next {source : Source} {r next : FetchRequest} {page : AlertPage}
    {notes : List ImportTurn} (h : Stopping source r page notes)
    (hmore : (!page.hasMore || page.scanned = 0) = false) (hnext : r.next? = some next) : False := by
  cases h with
  | lastPage hlast => exact Bool.false_ne_true (hmore.symm.trans hlast)
  | outOfRange _ hnone => exact Option.some_ne_none next (hnext.symm.trans hnone)

/-- A run fetches the beginning of what a complete run over the same pages fetches. -/
theorem prefix_fetchedAlerts {source : Source} {stats stats' : ImportStats} {r : FetchRequest}
    {ts us : List ImportTurn} {res res' : ImportStats × Option ImportError}
    {pages : Nat → AlertPage} (h : Walking source false stats r ts res)
    (h' : Walking source false stats' r us res') (hts : Follows pages ts) (hus : Follows pages us)
    (hcomplete : res'.2 = none) : fetchedAlerts ts <+: fetchedAlerts us := by
  -- the request for the next page depends on the last request only, so that both runs ask for the same
  induction h generalizing stats' us res' pages with
  | failed stats r e => exact List.nil_prefix
  | stopped h hstop =>
    obtain ⟨rfl, -⟩ := follows_cons (pageAnswers_page h.not_asked) hts
    rw [fetchedAlerts_page h.not_asked, fetchedAlerts_of_not_asked (not_asked_of_quiet hstop.quiet),
      List.append_nil]
    cases h' with
    | failed e => cases hcomplete
    | stopped k hstop' =>
      obtain ⟨hpage, -⟩ := follows_cons (pageAnswers_page k.not_asked) hus
      rw [fetchedAlerts_page k.not_asked, hpage]
      exact List.prefix_append _ _
    | next k hmore hnext hrest =>
      obtain ⟨rfl, -⟩ := follows_cons (pageAnswers_page k.not_asked) hus
      exact (hstop.not_next hmore hnext).elim
  | next h hmore hnext _ ih =>
    obtain ⟨rfl, hrest⟩ := follows_cons (pageAnswers_page h.not_asked) hts
    rw [fetchedAlerts_page h.not_asked]
    cases h' with
    | failed e => cases hcomplete
    | stopped k hstop' =>
      obtain ⟨rfl, -⟩ := follows_cons (pageAnswers_page k.not_asked) hus
      exact (hstop'.not_next hmore hnext).elim
    | next k hmore' hnext' hwalk =>
      obtain ⟨hpage, hrest'⟩ := follows_cons (pageAnswers_page k.not_asked) hus
      rw [fetchedAlerts_page k.not_asked, hpage]
      obtain rfl := Option.some.inj (hnext.symm.trans hnext')
      have hprefix := ih hwalk hrest hrest' hcomplete
      exact (List.prefix_append_right_inj _).mpr hprefix

end Importer

/-! ## Runs one after the other -/

/-- A run for a request, with the numbers counted before it. -/
structure Attempt (source : Source) (r : FetchRequest) where
  stats : ImportStats
  run : Program.Run (Importer.backfill source false stats r)

namespace Attempt

variable {source : Source} {r : FetchRequest}

def turns (a : Attempt source r) : List ImportTurn :=
  a.run.turns

/-- The run has ended without an error. -/
def IsComplete (a : Attempt source r) : Prop :=
  a.run.result.2 = none

def fetched (a : Attempt source r) : List Alert :=
  fetchedAlerts a.turns

end Attempt

open Store

variable {source : Source} {r : FetchRequest} {pages : Nat → AlertPage}

theorem prefix_fetched {a b : Attempt source r} (ha : Follows pages a.turns)
    (hb : Follows pages b.turns) (hcomplete : b.IsComplete) : a.fetched <+: b.fetched :=
  Importer.prefix_fetchedAlerts (Importer.ends_backfill a.run.ends)
    (Importer.ends_backfill b.run.ends) ha hb hcomplete

theorem fetched_eq {a b : Attempt source r} (ha : Follows pages a.turns)
    (hb : Follows pages b.turns) (hacomplete : a.IsComplete) (hbcomplete : b.IsComplete) :
    a.fetched = b.fetched :=
  (prefix_fetched ha hb hbcomplete).eq_of_length_le (prefix_fetched hb ha hacomplete).length_le

/-- The turns of some runs, one after the other. -/
def attemptTurns (runs : List (Attempt source r)) : List ImportTurn :=
  runs.flatMap (·.turns)

/-- Runs one after the other take in what they fetch, one after the other. -/
theorem receives_attempts {l : Ledger} {s' : Store} {runs : List (Attempt source r)} {ids : List Uuid}
    (hs : Serves Performs l.store (attemptTurns runs) s')
    (hfresh : l.Fresh (drawnIds (attemptTurns runs) ++ ids)) :
    ∃ (m : Ledger) (xs : List Addition), s' = m.store ∧
      l.Receives m (runs.map (·.fetched)).flatten xs ∧ m.Fresh ids := by
  induction runs generalizing l with
  | nil => exact ⟨l, [], hs, .nil l, hfresh⟩
  | cons run runs ih =>
    unfold attemptTurns at hs hfresh
    rw [List.flatMap_cons] at hs hfresh
    rw [drawnIds_append, List.append_assoc] at hfresh
    obtain ⟨s1, hs1, hs2⟩ := serves_append_iff.mp hs
    obtain ⟨m, xs, rfl, htaken, hids⟩ := Importer.takenIn_run run.run hs1 hfresh.of_append
    have hrest := hfresh
    rw [show drawnIds run.turns = xs.flatMap (·.ids) from hids] at hrest
    obtain ⟨n, ys, hn, hreceives, hlast⟩ := ih hs2 (htaken.toReceives.fresh hrest)
    refine ⟨n, xs ++ ys, hn, ?_, hlast⟩
    rw [List.map_cons, List.flatten_cons]
    exact htaken.toReceives.append hreceives

/-- A list of alerts whose identities are all on record changes nothing and counts nothing as new. -/
theorem Ledger.TakenIn.of_known {l m : Ledger} {as : List Alert} {xs : List Addition}
    {stats stats' : ImportStats} (h : l.TakenIn m as xs stats stats')
    (hknown : ∀ a ∈ as, a.key ∈ l.keys) :
    m = l ∧ stats'.newOutages = stats.newOutages ∧ stats'.newAlerts = stats.newAlerts ∧
      ((∀ a ∈ as, m.reads a.key = true) →
        stats'.skipped = stats.skipped + as.length ∧ stats'.errors = stats.errors) := by
  have hnone : xs = [] := List.map_eq_nil_iff.mp (h.alerts.trans (newcomers_eq_nil hknown))
  subst hnone
  have hrepeats : repeats l.keys as = as := repeats_eq_self hknown
  refine ⟨?_, h.newOutages, h.newAlerts, fun hreads => ⟨?_, ?_⟩⟩
  · exact Ledger.ext (h.grows.outages.trans (List.append_nil _))
      (h.grows.alerts.trans (List.append_nil _))
  · rw [h.skipped, hrepeats, List.countP_eq_length.mpr hreads]
  · rw [h.errors, hrepeats, List.countP_eq_zero.mpr fun a ha => by simp [hreads a ha], Nat.add_zero]

/-- Runs over the same pages and then a complete one add what a single complete run adds. -/
theorem newcomers_attempts {known : List AlertKey} {runs : List (Attempt source r)}
    {single last : Attempt source r} (hruns : ∀ a ∈ runs, Follows pages a.turns)
    (hsingle : Follows pages single.turns) (hlast : Follows pages last.turns)
    (hscomplete : single.IsComplete) (hlcomplete : last.IsComplete) :
    newcomers known ((runs.map (·.fetched)).flatten ++ last.fetched) =
      newcomers known single.fetched := by
  rw [fetched_eq hsingle hlast hscomplete hlcomplete]
  refine newcomers_prefixes_append fun as has => ?_
  obtain ⟨a, ha, rfl⟩ := List.mem_map.mp has
  exact prefix_fetched (hruns a ha) hlast hlcomplete

/-- Whatever a complete run fetches is known if an earlier run was complete. -/
theorem known_of_complete {l m : Ledger} {runs : List (Attempt source r)} {xs : List Addition}
    {a last : Attempt source r} (h : l.Receives m (runs.map (·.fetched)).flatten xs)
    (ha : a ∈ runs) (hfollows : Follows pages a.turns) (hlast : Follows pages last.turns)
    (hacomplete : a.IsComplete) (hlcomplete : last.IsComplete) :
    ∀ b ∈ last.fetched, b.key ∈ m.keys := by
  intro b hb
  rw [h.keys]
  refine key_mem_knownAfter (List.mem_flatten.mpr ⟨a.fetched, List.mem_map_of_mem ha, ?_⟩)
  rwa [fetched_eq hfollows hlast hacomplete hlcomplete]

/-- After any runs over the same pages, complete or cut off, a complete run leaves what a single
complete run would have left but for the ids and the times of the records: the same alerts have been
added, each with an outage of its own, and what was there before any of the runs is still there. If one
of the earlier runs was complete, the last one changes nothing and counts no alert as new; if all rows of
the alerts read back, it counts them all as skipped. -/
theorem restart_safe {s s₁ t u s₂ : Store} (hreachable : s.Reachable)
    (single last : Attempt source r) (prior later : List (Attempt source r))
    (hpages : ∀ a ∈ single :: last :: (prior ++ later), Follows pages a.turns)
    (hsingle : single.IsComplete) (hlast : last.IsComplete)
    (hs₁ : Serves Performs s single.turns s₁) (hfresh₁ : s.Fresh (drawnIds single.turns))
    (ht : Serves Performs s (attemptTurns prior) t) (hu : Serves Performs t (attemptTurns later) u)
    (hs₂ : Serves Performs u last.turns s₂)
    (hfresh₂ : s.Fresh (drawnIds (attemptTurns (prior ++ later) ++ last.turns))) :
    ∃ (l l₁ lt l₂ : Ledger) (xs ys : List Addition),
      s = l.store ∧ s₁ = l₁.store ∧ t = lt.store ∧ s₂ = l₂.store ∧
      l₁.outages = l.outages ++ xs.map (·.outage) ∧ l₁.alerts = l.alerts ++ xs.map (·.record) ∧
      l₂.outages = l.outages ++ ys.map (·.outage) ∧ l₂.alerts = l.alerts ++ ys.map (·.record) ∧
      ys.map (·.alert) = xs.map (·.alert) ∧ l₂.keys = l₁.keys ∧
      (∀ y ∈ ys, y.outageId ∉ l.outageIds ∧ l₂.referents.count y.outageId = 1) ∧
      lt.outages <+: l₂.outages ∧ lt.alerts <+: l₂.alerts ∧
      ((∃ a ∈ prior ++ later, a.IsComplete) →
        s₂ = u ∧
        last.run.result.1.newOutages = last.stats.newOutages ∧
        last.run.result.1.newAlerts = last.stats.newAlerts ∧
        last.run.result.1.totalFetched = last.stats.totalFetched + last.fetched.length ∧
        ((∀ a ∈ last.fetched, l₂.reads a.key = true) →
          last.run.result.1.skipped = last.stats.skipped + last.fetched.length ∧
          last.run.result.1.errors = last.stats.errors)) := by
  obtain ⟨l, rfl⟩ := hreachable.exists_ledger
  have hfollows : ∀ a ∈ prior ++ later, Follows pages a.turns := fun a ha =>
    hpages a (List.mem_cons_of_mem _ (List.mem_cons_of_mem _ ha))
  have hfollowsLast : Follows pages last.turns :=
    hpages last (List.mem_cons_of_mem _ List.mem_cons_self)
  -- what each of the runs makes of the ledger
  obtain ⟨l₁, xs, rfl, htaken₁, -⟩ := Importer.takenIn_run single.run hs₁ hfresh₁.ledger
  have hfresh := hfresh₂.ledger
  rw [attemptTurns, List.flatMap_append, drawnIds_append, drawnIds_append, List.append_assoc] at hfresh
  obtain ⟨lt, zs, rfl, hprior, hfresht⟩ := receives_attempts ht hfresh
  obtain ⟨lu, ws, rfl, hlater, hfreshu⟩ := receives_attempts hu hfresht
  obtain ⟨l₂, ys, rfl, htaken₂, -⟩ := Importer.takenIn_run last.run hs₂ hfreshu
  have hearlier := hprior.append hlater
  rw [← List.flatten_append, ← List.map_append] at hearlier
  have hall := hearlier.append htaken₂.toReceives
  have hsince := hlater.append htaken₂.toReceives
  have halerts : (zs ++ ws ++ ys).map (·.alert) = xs.map (·.alert) := by
    rw [hall.alerts, htaken₁.alerts]
    exact newcomers_attempts hfollows (hpages single List.mem_cons_self) hfollowsLast hsingle hlast
  have hkeys : l₂.keys = l₁.keys := by
    rw [hall.keys, htaken₁.keys, knownAfter, knownAfter, ← hall.alerts, ← htaken₁.alerts, halerts]
  refine ⟨l, l₁, lt, l₂, xs, zs ++ ws ++ ys, rfl, rfl, rfl, rfl, htaken₁.grows.outages,
    htaken₁.grows.alerts, hall.grows.outages, hall.grows.alerts, halerts, hkeys,
    fun y hy => hall.own_outage hy, ⟨_, hsince.grows.outages.symm⟩, ⟨_, hsince.grows.alerts.symm⟩, ?_⟩
  rintro ⟨a, ha, hcomplete⟩
  have hknown := known_of_complete hearlier ha (hfollows a ha) hfollowsLast hcomplete hlast
  obtain ⟨hunchanged, houtages, hnew, hcounts⟩ := htaken₂.of_known hknown
  refine ⟨congrArg Ledger.store hunchanged, houtages, hnew, ?_, hcounts⟩
  exact (Importer.ends_backfill last.run.ends).totalFetched_eq

namespace Sample

/-- A run of which the first page cannot be fetched. -/
def cut : Attempt .pagerDuty request :=
  ⟨.zero, Program.runOf (stage (.error (.transport .pagerDuty "reset")) []).handler _ (start store)⟩

/-- A run over the sample page. -/
def whole (s : Store) : Attempt .pagerDuty request :=
  ⟨.zero, run s⟩

theorem follows_of_answers {ts : List ImportTurn}
    (h : ∀ x ∈ pageAnswers ts, ∀ p, x = .ok p → p = page) : Follows (fun _ => page) ts :=
  fun _ p hi => h (.ok p) (List.mem_of_getElem? hi) p rfl

theorem follows_cut : Follows (fun _ => page) cut.turns := by
  refine follows_of_answers fun x hx p hp => ?_
  cases hp.symm.trans (pageAnswers_turns _ _ _ _ x hx)

theorem follows_whole (s : Store) : Follows (fun _ => page) (whole s).turns := by
  refine follows_of_answers fun x hx p hp => ?_
  cases hp.symm.trans (pageAnswers_turns _ _ _ _ x hx)
  rfl

theorem serves_cut : Serves Performs store cut.turns store := by
  have hs : Serves Performs store cut.turns _ := Stage.serves_turns rfl _ (start store)
  have hlater : (((Importer.backfill .pagerDuty false .zero request).run
      (stage (.error (.transport .pagerDuty "reset")) []).handler (start store)).2).store = store := by
    rw [Importer.backfill, Importer.walk]
    rfl
  rwa [hlater] at hs

theorem serves_whole : Serves Performs store (whole store).turns laterStore := by
  have hs : Serves Performs store (whole store).turns _ := Stage.serves_turns rfl _ (start store)
  have hlater : (((Importer.backfill .pagerDuty false .zero request).run
      (stage (.ok page) []).handler (start store)).2).store = laterStore := by
    rw [Importer.backfill, Importer.walk]
    decide +kernel
  rwa [hlater] at hs

theorem isComplete_whole {s : Store} (h : s = store ∨ s = laterStore) : (whole s).IsComplete := by
  show ((Importer.backfill .pagerDuty false .zero request).run
    (stage (.ok page) []).handler (start s)).1.2 = none
  rw [Importer.backfill, Importer.walk]
  rcases h with rfl | rfl
  · exact Option.isNone_iff_eq_none.mp (by decide +kernel)
  · exact Option.isNone_iff_eq_none.mp (by decide +kernel)

theorem drawnIds_cut : drawnIds cut.turns = [] := by
  show drawnIds ((Importer.backfill .pagerDuty false .zero request).turns
    (stage (.error (.transport .pagerDuty "reset")) []).handler (start store)) = []
  rw [Importer.backfill, Importer.walk]
  rfl

theorem drawnIds_later : drawnIds (run laterStore).turns = [] := by
  unfold run Program.runOf
  rw [Importer.backfill, Importer.walk]
  decide +kernel

end Sample

/-- A run that is cut off, a complete one, and another complete one. -/
theorem restart_safe_of_sample :
    ∃ s₂, Serves Performs Sample.laterStore (Sample.whole Sample.laterStore).turns s₂ ∧
      ∃ (l l₁ lt l₂ : Ledger) (xs ys : List Addition),
        Sample.store = l.store ∧ Sample.laterStore = l₁.store ∧ Sample.store = lt.store ∧
        s₂ = l₂.store ∧
        l₁.outages = l.outages ++ xs.map (·.outage) ∧ l₁.alerts = l.alerts ++ xs.map (·.record) ∧
        l₂.outages = l.outages ++ ys.map (·.outage) ∧ l₂.alerts = l.alerts ++ ys.map (·.record) ∧
        ys.map (·.alert) = xs.map (·.alert) ∧ l₂.keys = l₁.keys ∧
        (∀ y ∈ ys, y.outageId ∉ l.outageIds ∧ l₂.referents.count y.outageId = 1) ∧
        lt.outages <+: l₂.outages ∧ lt.alerts <+: l₂.alerts ∧
        ((∃ a ∈ [Sample.cut] ++ [Sample.whole Sample.store], a.IsComplete) →
          s₂ = Sample.laterStore ∧
          (Sample.whole Sample.laterStore).run.result.1.newOutages = 0 ∧
          (Sample.whole Sample.laterStore).run.result.1.newAlerts = 0 ∧
          (Sample.whole Sample.laterStore).run.result.1.totalFetched =
            0 + (Sample.whole Sample.laterStore).fetched.length ∧
          ((∀ a ∈ (Sample.whole Sample.laterStore).fetched, l₂.reads a.key = true) →
            (Sample.whole Sample.laterStore).run.result.1.skipped =
              0 + (Sample.whole Sample.laterStore).fetched.length ∧
            (Sample.whole Sample.laterStore).run.result.1.errors = 0)) := by
  have hlast : ∃ s₂, Serves Performs Sample.laterStore (Sample.whole Sample.laterStore).turns s₂ :=
    Sample.serves_run Sample.laterStore
  obtain ⟨s₂, hs₂⟩ := hlast
  have hpages : ∀ a ∈ Sample.whole Sample.store :: Sample.whole Sample.laterStore ::
      ([Sample.cut] ++ [Sample.whole Sample.store]), Follows (fun _ => Sample.page) a.turns := by
    intro a ha
    simp only [List.mem_cons, List.mem_append, List.not_mem_nil, or_false] at ha
    rcases ha with rfl | rfl | rfl | rfl
    · exact Sample.follows_whole _
    · exact Sample.follows_whole _
    · exact Sample.follows_cut
    · exact Sample.follows_whole _
  have hfresh : Sample.store.Fresh
      (drawnIds (attemptTurns ([Sample.cut] ++ [Sample.whole Sample.store]) ++
        (Sample.whole Sample.laterStore).turns)) := by
    have hids : drawnIds (attemptTurns ([Sample.cut] ++ [Sample.whole Sample.store]) ++
        (Sample.whole Sample.laterStore).turns) =
          drawnIds Sample.cut.turns ++ drawnIds (Sample.run Sample.store).turns ++
            drawnIds (Sample.run Sample.laterStore).turns := by
      rw [attemptTurns, List.singleton_append, List.flatMap_cons, List.flatMap_singleton,
        drawnIds_append, drawnIds_append]
      rfl
    rw [hids, Sample.drawnIds_cut, Sample.drawnIds_later, List.nil_append, List.append_nil]
    exact Sample.fresh_run
  have hcut : Serves Performs Sample.store (attemptTurns [Sample.cut]) Sample.store := by
    rw [attemptTurns, List.flatMap_singleton]
    exact Sample.serves_cut
  have hwhole : Serves Performs Sample.store (attemptTurns [Sample.whole Sample.store])
      Sample.laterStore := by
    rw [attemptTurns, List.flatMap_singleton]
    exact Sample.serves_whole
  exact ⟨s₂, hs₂, restart_safe Sample.reachable_store (Sample.whole Sample.store)
    (Sample.whole Sample.laterStore) [Sample.cut] [Sample.whole Sample.store] hpages
    (Sample.isComplete_whole (Or.inl rfl)) (Sample.isComplete_whole (Or.inr rfl)) Sample.serves_whole
    Sample.fresh_run hcut hwhole hs₂ hfresh⟩

end OutageLedger
