import OutageLedger.Proofs.Import.Fetching
import OutageLedger.Proofs.Import.Rehearsal
import OutageLedger.Proofs.Import.World
import OutageLedger.Proofs.Provider.Reply

/-
  Runs against a sequence of replies, in a world of which nothing is said but that it has a state. What a run
  does is said page by page (`run_walk_failed`, `run_walk_stopped`, `run_walk_next`). Main statement:
  `failure_keeps_pages`, a run that a reply without a page ends has done what a run does for which the page
  before it was the last.

  The two runs are compared in the same world, whose clock and supply of ids give the same while they are
  asked the same. Redirects are not followed: a reply is the last one to a request.
-/

namespace OutageLedger

/-- Replies that come one after the other, whatever is requested. -/
def Transport.script (replies : ℕ → HttpReply) : Transport ℕ :=
  fun _ n => (replies n, n + 1)

namespace World

variable {ω : Type} (w : World ω)

/-- The replies to a client are answered in the world, from the first one on: the result of a run, how many
replies it has consumed, and the state of the world after it. -/
def backfill (c : ProviderClient) (replies : ℕ → HttpReply) (dryRun : Bool) (stats : ImportStats)
    (r : FetchRequest) (y : ω) : (ImportStats × Option ImportError) × ℕ × ω :=
  (Importer.backfill c.source dryRun stats r).run (w.handler (.ofClient c (.script replies))) (0, y)

/-- The same for a run from a page on, with the replies from a place on. -/
def walk (c : ProviderClient) (replies : ℕ → HttpReply) (dryRun : Bool) (stats : ImportStats)
    (r : FetchRequest) (h : r.limit ≠ 0) (n : ℕ) (y : ω) :
    (ImportStats × Option ImportError) × ℕ × ω :=
  (Importer.walk c.source dryRun stats r h).run (w.handler (.ofClient c (.script replies))) (n, y)

/-- What taking in some alerts makes of the numbers and of the world. -/
def taking (dryRun : Bool) (stats : ImportStats) (as : List Alert) (y : ω) : ImportStats × ω :=
  (Importer.processAll dryRun stats as).run w.offline y

variable {w}

section

variable {c : ProviderClient} (hurl : (c.get c.source.listPath).isOk = true) {replies : ℕ → HttpReply}
variable {r : FetchRequest} {n : ℕ}

include hurl

theorem ask_page (y : ω) :
    w.handler (.ofClient c (.script replies)) (.ask (.page r)) (n, y) =
      (c.source.answer (.page r) (replies n), n + 1, y) := by
  obtain ⟨sent, remarks, hanswer⟩ := answer_ofClient_page hurl (.script replies) r n
  show ((_ : Except ProviderError AlertPage × List Event × ℕ).1, _, y) = _
  rw [hanswer]
  rfl

variable (dryRun : Bool) (stats : ImportStats) (y : ω)

theorem run_walk_failed (h : r.limit ≠ 0) {e : ProviderError}
    (he : c.source.answer (.page r) (replies n) = .error e) :
    w.walk c replies dryRun stats r h n y = ((stats, some ⟨r.offset, e⟩), n + 1, y) := by
  rw [walk, Importer.walk, Importer.ask, Program.perform_bind, Program.run_call, ask_page hurl, he]
  rfl

/-- After a page that no page can follow, a run is over. -/
theorem run_walk_stopped (h : r.limit ≠ 0) {page : AlertPage}
    (hpage : c.source.answer (.page r) (replies n) = .ok page) (hends : r.EndsWith page) :
    w.walk c replies dryRun stats r h n y =
      (((w.taking dryRun (stats.fetched page.alerts.length) page.alerts y).1, none), n + 1,
        (w.taking dryRun (stats.fetched page.alerts.length) page.alerts y).2) := by
  rw [walk, Importer.walk, Importer.ask, Program.perform_bind, Program.run_call, ask_page hurl, hpage]
  show Program.run _ (Importer.processAll dryRun (stats.fetched page.alerts.length) page.alerts >>= _)
    (n + 1, y) = _
  rw [Program.run_bind, run_of_onlyWorks (Importer.onlyWorks_processAll _ _)]
  split
  · rfl
  · rename_i hmore
    split
    · rfl
    · rename_i next hnext
      exact absurd hends (Importer.not_endsWith (Bool.eq_false_iff.mpr hmore) hnext)

/-- After any other page, a run goes on. -/
theorem run_walk_next (h : r.limit ≠ 0) {page : AlertPage}
    (hpage : c.source.answer (.page r) (replies n) = .ok page) (hends : ¬r.EndsWith page) :
    ∃ (next : FetchRequest) (h' : next.limit ≠ 0), r.next? = some next ∧
      w.walk c replies dryRun stats r h n y =
        w.walk c replies dryRun (w.taking dryRun (stats.fetched page.alerts.length) page.alerts y).1
          next h' (n + 1) (w.taking dryRun (stats.fetched page.alerts.length) page.alerts y).2 := by
  cases hnext : r.next? with
  | none => exact absurd (Or.inr (Or.inr (FetchRequest.next?_eq_none_iff.mp hnext))) hends
  | some next =>
    refine ⟨next, r.limit_next hnext ▸ h, rfl, ?_⟩
    have hmore : ¬(!page.hasMore || page.scanned = 0) = true := by
      intro hlast
      rcases (Bool.or_eq_true _ _).mp hlast with hlast | hnone
      · exact hends (Or.inl (by simpa using hlast))
      · exact hends (Or.inr (Or.inl (of_decide_eq_true hnone)))
    rw [walk, Importer.walk, Importer.ask, Program.perform_bind, Program.run_call, ask_page hurl, hpage]
    show Program.run _ (Importer.processAll dryRun (stats.fetched page.alerts.length) page.alerts >>= _)
      (n + 1, y) = _
    rw [Program.run_bind, run_of_onlyWorks (Importer.onlyWorks_processAll _ _), if_neg hmore]
    split
    · rename_i hnone
      cases hnext.symm.trans hnone
    · rename_i next' hsome
      cases hnext.symm.trans hsome
      rfl

/-- A run all of whose replies have a page does not fail. -/
theorem run_walk_complete (h : r.limit ≠ 0)
    (hpages : ∀ i, n ≤ i → i < (w.walk c replies dryRun stats r h n y).2.1 →
      (c.source.pageOfReply? (replies i)).isSome = true) :
    (w.walk c replies dryRun stats r h n y).1.2 = none := by
  -- the offsets that are left become fewer from page to page
  induction hleft : UInt32.size - r.offset.toNat using Nat.strongRecOn generalizing stats r n y with
  | ind left ih =>
    cases hreply : c.source.pageOfReply? (replies n) with
    | none =>
      obtain ⟨e, he, -⟩ := Source.rejects_of_no_page (r := r) hreply
      rw [run_walk_failed hurl dryRun stats y h he] at hpages
      cases (hpages n (Nat.le_refl n) (Nat.lt_succ_self n)).symm.trans (congrArg Option.isSome hreply)
    | some page =>
      have hpage := Source.answer_of_page (r := r) hreply
      by_cases hends : r.EndsWith (page.alertPage c.source r.teamIds)
      · rw [run_walk_stopped hurl dryRun stats y h hpage hends]
      · obtain ⟨next, h', hnext, hrun⟩ := run_walk_next (w := w) hurl dryRun stats y h hpage hends
        rw [hrun] at hpages ⊢
        refine ih (UInt32.size - next.offset.toNat) ?_ _ _ h' (fun i hi => ?_) rfl
        · have hoffset := r.toNat_offset_next hnext
          have hpos : r.limit.toNat ≠ 0 := fun h0 => h (UInt32.toNat_inj.mp h0)
          have hbound : next.offset.toNat < UInt32.size := next.offset.toNat_lt
          omega
        · exact hpages i (Nat.le_of_succ_le hi)

/-- The first reply without a page ends a run with an error. What the run has done by then is what a run does
that is told by the reply before it that there are no more pages. -/
theorem run_walk_aborted (replies : ℕ → HttpReply) (h : r.limit ≠ 0) {k : ℕ}
    (hk : n + k < (w.walk c replies dryRun stats r h n y).2.1)
    (hbad : c.source.pageOfReply? (replies (n + k)) = none) :
    ∃ (stats' : ImportStats) (e : ImportError) (y' : ω),
      w.walk c replies dryRun stats r h n y = ((stats', some e), n + k + 1, y') ∧
      e.offset.toNat = r.offset.toNat + k * r.limit.toNat ∧
      c.source.Rejects (replies (n + k)) e.cause ∧
      (k = 0 → stats' = stats ∧ y' = y) ∧
      ∀ (replies' : ℕ → HttpReply) (j : ℕ) (page : ReportPage), k = j + 1 →
        (∀ i < j, replies' (n + i) = replies (n + i)) →
        c.source.pageOfReply? (replies (n + j)) = some page →
        c.source.pageOfReply? (replies' (n + j)) = some { page with hasMore := false } →
        w.walk c replies' dryRun stats r h n y = ((stats', none), n + k, y') := by
  induction k generalizing stats r n y with
  | zero =>
    obtain ⟨e, he, hrejects⟩ := Source.rejects_of_no_page (r := r) hbad
    refine ⟨stats, ⟨r.offset, e⟩, y, run_walk_failed hurl dryRun stats y h he, ?_, hrejects,
      fun _ => ⟨rfl, rfl⟩, fun _ _ _ hj => absurd hj (Nat.succ_ne_zero _).symm⟩
    rw [Nat.zero_mul, Nat.add_zero]
  | succ k ih =>
    cases hreply : c.source.pageOfReply? (replies n) with
    | none =>
      obtain ⟨e, he, -⟩ := Source.rejects_of_no_page (r := r) hreply
      rw [run_walk_failed hurl dryRun stats y h he] at hk
      have hover : n + (k + 1) < n + 1 := hk
      omega
    | some page =>
      have hpage := Source.answer_of_page (r := r) hreply
      by_cases hends : r.EndsWith (page.alertPage c.source r.teamIds)
      · rw [run_walk_stopped hurl dryRun stats y h hpage hends] at hk
        have hover : n + (k + 1) < n + 1 := hk
        omega
      · obtain ⟨next, h', hnext, hrun⟩ := run_walk_next (w := w) hurl dryRun stats y h hpage hends
        have hshift : ∀ i, n + (i + 1) = n + 1 + i := fun i => by
          omega
        rw [hshift] at hk hbad ⊢
        rw [hrun] at hk
        obtain ⟨stats', e, y', hout, hoffset, hrejects, hfirst, hother⟩ := ih _ _ h' hk hbad
        refine ⟨stats', e, y', hrun.trans hout, ?_, hrejects, fun h0 => absurd h0 (Nat.succ_ne_zero k), ?_⟩
        · rw [hoffset, r.toNat_offset_next hnext, ← r.limit_next hnext, Nat.succ_mul]
          omega
        · intro replies' j page' hj hsame hlast hlast'
          obtain rfl : k = j := Nat.succ.inj hj
          cases k with
          | zero =>
            -- the page before the failure is this one, after which the other run stops
            obtain rfl : page = page' := Option.some.inj (hreply.symm.trans hlast)
            obtain ⟨rfl, rfl⟩ := hfirst rfl
            rw [Nat.add_zero] at hlast'
            rw [run_walk_stopped hurl dryRun stats y h (Source.answer_of_page hlast') (Or.inl rfl)]
            rfl
          | succ k =>
            have hpage' : c.source.answer (.page r) (replies' n) =
                .ok (page.alertPage c.source r.teamIds) := by
              rw [show replies' n = replies n from hsame 0 (Nat.succ_pos k)]
              exact hpage
            obtain ⟨next', h'', hnext', hrun'⟩ := run_walk_next (w := w) hurl dryRun stats y h hpage' hends
            obtain rfl : next = next' := Option.some.inj (hnext.symm.trans hnext')
            rw [hrun']
            refine hother replies' k page' rfl (fun i hi => ?_) ?_ ?_
            · rw [← hshift]
              exact hsame (i + 1) (Nat.succ_lt_succ hi)
            · rw [← hshift]
              exact hlast
            · rw [← hshift]
              exact hlast'

end

end World

/-- A client whose address takes the path of the list runs over the pages in any sequence of replies. If each
reply that the run consumes has a page, it ends without an error. A reply without a page is the last that it
consumes and ends it with an error, which bears the offset of the page and is of the kind that the reply
calls for. The numbers and the world are then those before the run if the reply was the first, and else those
after a run with the same replies before it, of which the last says that there are no more pages. -/
theorem failure_keeps_pages {ω : Type} (w : World ω) {c : ProviderClient}
    (hurl : (c.get c.source.listPath).isOk = true) (replies : ℕ → HttpReply) (dryRun : Bool)
    (stats : ImportStats) (r : FetchRequest) (y : ω) :
    let out := w.backfill c replies dryRun stats r y
    ((∀ i < out.2.1, (c.source.pageOfReply? (replies i)).isSome = true) → out.1.2 = none) ∧
    ∀ k < out.2.1, c.source.pageOfReply? (replies k) = none →
      ∃ (stats' : ImportStats) (e : ImportError) (y' : ω), out = ((stats', some e), k + 1, y') ∧
        e.offset.toNat = r.offset.toNat + k * r.effectiveLimit.toNat ∧
        c.source.Rejects (replies k) e.cause ∧
        (k = 0 → stats' = stats ∧ y' = y) ∧
        ∀ (replies' : ℕ → HttpReply) (j : ℕ) (page : ReportPage), k = j + 1 →
          (∀ i < j, replies' i = replies i) →
          c.source.pageOfReply? (replies j) = some page →
          c.source.pageOfReply? (replies' j) = some { page with hasMore := false } →
          w.backfill c replies' dryRun stats r y = ((stats', none), k, y') := by
  intro out
  refine ⟨fun hpages => ?_, fun k hk hbad => ?_⟩
  · exact World.run_walk_complete hurl dryRun stats y r.effectiveLimit_ne_zero fun i _ hi => hpages i hi
  · have habort := World.run_walk_aborted (w := w) (r := { r with limit := r.effectiveLimit })
      (n := 0) (k := k) hurl dryRun stats y replies r.effectiveLimit_ne_zero
    simp only [Nat.zero_add] at habort
    exact habort hk hbad

namespace Sample

/-- A store that performs every call, a clock that stands still, and ids in the order of their numbers. -/
def world : World (Store × ℕ) where
  store c y := ((y.1.perform c).1, (y.1.perform c).2, y.2)
  now y := (.epoch, y)
  newId y := (id y.2, y.1, y.2 + 1)

def client : ProviderClient :=
  ⟨.pagerDuty, "http://[::1]", []⟩

/-- A page with one incident, which says whether there are more. -/
def incidentReply (number more : String) : HttpReply :=
  .answer 200 (some (Text.Utf8.encode
    ("\x7b\"incidents\":[\x7b\"id\":\"" ++ number ++
      "\",\"created_at\":\"1970-01-01T00:00:00Z\"\x7d],\"more\":" ++ more ++ "\x7d").toList))

/-- Two pages, and then a service that is out of order. -/
def failingReplies : ℕ → HttpReply
  | 0 => incidentReply "A" "true"
  | 1 => incidentReply "C" "true"
  | _ => .answer 503 (some [])

/-- Two pages, the second of which is the last. -/
def endingReplies : ℕ → HttpReply
  | 0 => incidentReply "A" "true"
  | _ => incidentReply "C" "false"

/-- The incident as it is read. -/
def incident (number : String) : Report :=
  ⟨number, none, none, none, .epoch, none, none, []⟩

end Sample

/-- The third reply is a failure: both pages before it have been taken in, as in a run over two pages. -/
theorem failure_keeps_two_pages :
    ∃ (stats' : ImportStats) (e : ImportError) (y' : Store × ℕ),
      Sample.world.backfill Sample.client Sample.failingReplies false .zero Sample.request
        (Sample.store, 0) = ((stats', some e), 3, y') ∧
      e.offset.toNat = 200 ∧ (∃ text, e.cause = .api .pagerDuty 503 text) ∧
      Sample.world.backfill Sample.client Sample.endingReplies false .zero Sample.request
        (Sample.store, 0) = ((stats', none), 2, y') := by
  have hfirst : Sample.client.source.pageOfReply? (Sample.failingReplies 1) =
      some ⟨[Sample.incident "C"], true⟩ := by
    decide +kernel
  have hlast : Sample.client.source.pageOfReply? (Sample.endingReplies 1) =
      some ⟨[Sample.incident "C"], false⟩ := by
    decide +kernel
  obtain ⟨-, hfailure⟩ := failure_keeps_pages Sample.world (c := Sample.client) (by decide +kernel)
    Sample.failingReplies false .zero Sample.request (Sample.store, 0)
  obtain ⟨stats', e, y', hout, hoffset, hrejects, -, hother⟩ :=
    hfailure 2 (by decide +kernel) (by decide +kernel)
  refine ⟨stats', e, y', hout, hoffset.trans (by decide), hrejects,
    hother Sample.endingReplies 1 _ rfl (fun i hi => ?_) hfirst hlast⟩
  obtain rfl : i = 0 := Nat.lt_one_iff.mp hi
  rfl

end OutageLedger
