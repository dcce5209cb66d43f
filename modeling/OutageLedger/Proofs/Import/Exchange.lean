import OutageLedger.Proofs.Import.Itinerary
import OutageLedger.Proofs.Provider.Reply

/-
  What is sent to a service and received from it, where the service leaves it to its clients to filter by
  team. A transport may put each request on record with the reply to it (`Transport.recorded`). The teams asked
  for have no influence on the way over the pages, on what is sent on it, or on what ends it
  (`Provider.IgnoresTeams.trip`); the alerts that arrive are those of the reports received that are wanted, in
  order (`brings_trip`).
-/

namespace OutageLedger

/-! ## Records -/

/-- A request that was sent, with the reply to it. -/
structure Exchange where
  request : HttpRequest
  reply : HttpReply

/-- The transport with each request and the reply to it put on record. -/
def Transport.recorded {τ : Type} (send : Transport τ) : Transport (τ × List Exchange) :=
  fun request (x, record) =>
    ((send request x).1, (send request x).2, record ++ [⟨request, (send request x).1⟩])

/-- The reports on the page in a reply, if it has one. -/
def Source.reportsOfReply (source : Source) (reply : HttpReply) : List Report :=
  (source.pageOfReply? reply).elim [] (·.reports)

/-- The reports received, in order. -/
def Source.reportsIn (source : Source) (xs : List Exchange) : List Report :=
  xs.flatMap fun x => source.reportsOfReply x.reply

/-- The reports that name one of the teams asked for; no teams at all ask for every report. -/
def wanted (teamIds : List String) (reports : List Report) : List Report :=
  if teamIds = [] then reports else reports.filter fun rep => ∃ team ∈ rep.teams, team.id ∈ teamIds

theorem filter_matchesTeams (teamIds : List String) (reports : List Report) :
    reports.filter (·.matchesTeams teamIds) = wanted teamIds reports := by
  unfold wanted
  cases teamIds with
  | nil =>
    rw [if_pos rfl]
    exact List.filter_eq_self.mpr fun rep _ => rfl
  | cons id ids =>
    rw [if_neg (List.cons_ne_nil id ids)]
    refine List.filter_congr fun rep _ => ?_
    rw [Bool.eq_iff_iff, decide_eq_true_iff]
    simp [Report.matchesTeams]

theorem wanted_append (teamIds : List String) (reports reports' : List Report) :
    wanted teamIds (reports ++ reports') = wanted teamIds reports ++ wanted teamIds reports' := by
  rw [← filter_matchesTeams, ← filter_matchesTeams, ← filter_matchesTeams, List.filter_append]

/-- Those who ask for the teams of two lists want what is wanted by one of the two. -/
theorem mem_wanted_append {ids ids' : List String} (h : ids ≠ []) (h' : ids' ≠ []) {reports : List Report}
    {rep : Report} :
    rep ∈ wanted (ids ++ ids') reports ↔ rep ∈ wanted ids reports ∨ rep ∈ wanted ids' reports := by
  have hboth : ids ++ ids' ≠ [] := fun hnil => h (List.append_eq_nil_iff.mp hnil).1
  unfold wanted
  rw [if_neg h, if_neg h', if_neg hboth]
  simp only [List.mem_filter, decide_eq_true_eq, List.mem_append, and_or_left, exists_or]

/-! ## Answers -/

/-- What a page that was asked for says of the pages after it. -/
def AlertPage.outline (page : AlertPage) : Bool × Nat :=
  (page.hasMore, page.scanned)

theorem AlertPage.isLast_eq (page : AlertPage) :
    (!page.outline.1 || page.outline.2 = 0) = (!page.hasMore || page.scanned = 0) :=
  rfl

/-- Whatever teams are asked for, an answer says the same of the pages after it, and leaves the service
alike. -/
def Provider.IgnoresTeams {π : Type} (p : Provider π) : Prop :=
  ∀ (r : FetchRequest) (teamIds : List String) (x : π),
    let answer := p.answer (.page r) x
    let answer' := p.answer (.page { r with teamIds }) x
    answer'.1.map AlertPage.outline = answer.1.map AlertPage.outline ∧ answer'.2.2 = answer.2.2

/-- The page in a reply, or what is wrong with it. -/
def Source.pageOfReply (source : Source) (reply : HttpReply) : Except ProviderError ReportPage :=
  source.body reply >>= fun bytes => source.decoded (source.pageOfBytes? bytes)

theorem Source.answer_page (source : Source) (r : FetchRequest) (reply : HttpReply) :
    source.answer (.page r) reply = (source.pageOfReply reply).map (·.alertPage source r.teamIds) := by
  unfold pageOfReply
  cases h : source.body reply with
  | error e => rw [answer_of_body_error h]; rfl
  | ok bytes =>
    rw [answer_of_body h]
    show _ = (source.decoded (source.pageOfBytes? bytes)).map _
    cases source.pageOfBytes? bytes <;> rfl

/-- The alerts of an answer are those of the reports in the reply that are wanted. -/
theorem alertsIn_answer (r : FetchRequest) (reply : HttpReply) :
    alertsIn (Source.opsGenie.answer (.page r) reply) =
      (wanted r.teamIds (Source.opsGenie.reportsOfReply reply)).map (·.alert .opsGenie) := by
  unfold Source.reportsOfReply
  rw [← filter_matchesTeams]
  cases hpage : Source.opsGenie.pageOfReply? reply with
  | none =>
    obtain ⟨e, he, -⟩ := Source.rejects_of_no_page (r := r) hpage
    rw [he]
    rfl
  | some page =>
    rw [Source.answer_of_page hpage]
    rfl

section

variable {τ : Type} (baseUrl : String) (headers : List (String × String)) (send : Transport τ)

/-- What is sent for a page, and what the answer says of the pages after it, is the same for any teams. -/
theorem ignoresTeams_ofClient :
    (Provider.ofClient ⟨.opsGenie, baseUrl, headers⟩ send).IgnoresTeams := by
  intro r teamIds x
  have hsame : (⟨.opsGenie, baseUrl, headers⟩ : ProviderClient).request (.page { r with teamIds }) =
      (⟨.opsGenie, baseUrl, headers⟩ : ProviderClient).request (.page r) := rfl
  unfold Provider.ofClient
  dsimp only
  rw [hsame]
  cases (⟨.opsGenie, baseUrl, headers⟩ : ProviderClient).request (.page r) with
  | error e => exact ⟨rfl, rfl⟩
  | ok request =>
    refine ⟨?_, rfl⟩
    dsimp only
    rw [Source.answer_page, Source.answer_page]
    cases Source.opsGenie.pageOfReply (send request x).1 <;> rfl

/-- An answer brings the wanted ones of the reports that are received for it. -/
theorem exists_exchanges_answer (r : FetchRequest) (x : τ) (record : List Exchange) :
    let answer := (Provider.ofClient ⟨.opsGenie, baseUrl, headers⟩ send.recorded).answer (.page r)
      (x, record)
    ∃ xs, answer.2.2.2 = record ++ xs ∧
      alertsIn answer.1 = (wanted r.teamIds (Source.opsGenie.reportsIn xs)).map (·.alert .opsGenie) := by
  intro answer
  unfold answer Provider.ofClient
  dsimp only
  cases (⟨.opsGenie, baseUrl, headers⟩ : ProviderClient).request (.page r) with
  | error e =>
    refine ⟨[], record.append_nil.symm, ?_⟩
    rw [← filter_matchesTeams]
    rfl
  | ok request =>
    refine ⟨[⟨request, (send request x).1⟩], rfl, ?_⟩
    rw [Source.reportsIn, List.flatMap_singleton]
    exact alertsIn_answer r (send request x).1

end

/-! ## Trips -/

theorem FetchRequest.next?_teams (r : FetchRequest) (teamIds : List String) :
    { r with teamIds }.next? = r.next?.map fun next => { next with teamIds } := by
  unfold next?
  split <;> rfl

namespace Provider.IgnoresTeams

variable {π : Type} {p : Provider π} (hp : p.IgnoresTeams) (teamIds : List String) {r : FetchRequest}
  {x x' : π} {remarks : List Event}

include hp

theorem error {e : ProviderError} (h : p.answer (.page r) x = (.error e, remarks, x')) :
    ∃ remarks', p.answer (.page { r with teamIds }) x = (.error e, remarks', x') := by
  obtain ⟨houtline, hafter⟩ := hp r teamIds x
  obtain ⟨answer, remarks', x'', hanswer⟩ :
      ∃ a m y, p.answer (.page { r with teamIds }) x = (a, m, y) := ⟨_, _, _, rfl⟩
  rw [h, hanswer] at houtline hafter
  obtain rfl : x'' = x' := hafter
  cases answer with
  | error e' =>
    cases houtline
    exact ⟨remarks', hanswer⟩
  | ok page => cases houtline

theorem page {page : AlertPage} (h : p.answer (.page r) x = (.ok page, remarks, x')) :
    ∃ page' remarks', p.answer (.page { r with teamIds }) x = (.ok page', remarks', x') ∧
      page'.outline = page.outline := by
  obtain ⟨houtline, hafter⟩ := hp r teamIds x
  obtain ⟨answer, remarks', x'', hanswer⟩ :
      ∃ a m y, p.answer (.page { r with teamIds }) x = (a, m, y) := ⟨_, _, _, rfl⟩
  rw [h, hanswer] at houtline hafter
  obtain rfl : x'' = x' := hafter
  cases answer with
  | error e' => cases houtline
  | ok page' => exact ⟨page', remarks', hanswer, Except.ok.inj houtline⟩

/-- The way over the pages, and what ends it, is the same for any teams. -/
theorem trip (r : FetchRequest) (h : r.limit ≠ 0) (x : π) :
    (p.trip { r with teamIds } h x).failure = (p.trip r h x).failure ∧
      (p.trip { r with teamIds } h x).after = (p.trip r h x).after := by
  fun_induction p.trip r h x with
  | case1 r h x e remarks x' hanswer =>
    obtain ⟨remarks', hanswer'⟩ := hp.error teamIds hanswer
    rw [Provider.trip, hanswer']
    exact ⟨rfl, rfl⟩
  | case2 r h x page remarks x' hanswer hlast =>
    obtain ⟨page', remarks', hanswer', houtline⟩ := hp.page teamIds hanswer
    rw [← page.isLast_eq, ← houtline, page'.isLast_eq] at hlast
    rw [Provider.trip, hanswer']
    dsimp only
    rw [if_pos hlast]
    exact ⟨rfl, rfl⟩
  | case3 r h x page remarks x' hanswer hmore hnone =>
    obtain ⟨page', remarks', hanswer', houtline⟩ := hp.page teamIds hanswer
    rw [← page.isLast_eq, ← houtline, page'.isLast_eq] at hmore
    rw [Provider.trip, hanswer']
    dsimp only
    rw [if_neg hmore]
    split
    · exact ⟨rfl, rfl⟩
    · rename_i next hsome
      rw [r.next?_teams, hnone] at hsome
      cases hsome
  | case4 r h x page remarks x' hanswer hmore next hnext ih =>
    obtain ⟨page', remarks', hanswer', houtline⟩ := hp.page teamIds hanswer
    rw [← page.isLast_eq, ← houtline, page'.isLast_eq] at hmore
    rw [Provider.trip, hanswer']
    dsimp only
    rw [if_neg hmore]
    split
    · rename_i hnone
      rw [r.next?_teams, hnext] at hnone
      cases hnone
    · rename_i next' hsome
      rw [r.next?_teams, hnext] at hsome
      cases hsome
      exact ih

end Provider.IgnoresTeams

/-! ## Reports on a trip -/

/-- The alerts of a trip are those of the reports received on it that are wanted, in order. -/
def Trip.Brings {τ : Type} (t : Trip (τ × List Exchange)) (teamIds : List String)
    (record : List Exchange) : Prop :=
  ∃ xs, t.after.2 = record ++ xs ∧
    t.alerts = (wanted teamIds (Source.opsGenie.reportsIn xs)).map (·.alert .opsGenie)

namespace Trip.Brings

variable {τ : Type} {teamIds : List String}

theorem ended (failure : Option ImportError) (x : τ × List Exchange) :
    (Trip.ended failure x).Brings teamIds x.2 := by
  refine ⟨[], x.2.append_nil.symm, ?_⟩
  rw [← filter_matchesTeams]
  rfl

theorem onward {t : Trip (τ × List Exchange)} {leg : Leg} {record xs : List Exchange}
    (h : t.Brings teamIds (record ++ xs))
    (hleg : alertsIn leg.answer =
      (wanted teamIds (Source.opsGenie.reportsIn xs)).map (·.alert .opsGenie)) :
    (t.onward leg).Brings teamIds record := by
  obtain ⟨ys, hafter, halerts⟩ := h
  refine ⟨xs ++ ys, hafter.trans (List.append_assoc ..), ?_⟩
  show alertsIn leg.answer ++ t.alerts = _
  rw [hleg, halerts, ← List.map_append, ← wanted_append, Source.reportsIn, Source.reportsIn,
    ← List.flatMap_append]
  rfl

end Trip.Brings

/-- What a client is sent is put on record, and brings the alerts of the trip. -/
theorem brings_trip {τ : Type} (baseUrl : String) (headers : List (String × String))
    (send : Transport τ) (r : FetchRequest) (h : r.limit ≠ 0) (x : τ × List Exchange) :
    ((Provider.ofClient ⟨.opsGenie, baseUrl, headers⟩ send.recorded).trip r h x).Brings r.teamIds x.2 := by
  have hleg : ∀ {r : FetchRequest} {x x' : τ × List Exchange}
      {answer : Except ProviderError (ProviderQuery.page r).Answer} {remarks : List Event},
      (Provider.ofClient ⟨.opsGenie, baseUrl, headers⟩ send.recorded).answer (.page r) x =
        (answer, remarks, x') →
      ∃ xs, x'.2 = x.2 ++ xs ∧ alertsIn answer =
        (wanted r.teamIds (Source.opsGenie.reportsIn xs)).map (·.alert .opsGenie) := by
    intro r x x' answer remarks hanswer
    have hexchanged := exists_exchanges_answer baseUrl headers send r x.1 x.2
    rw [show (x.1, x.2) = x from rfl, hanswer] at hexchanged
    exact hexchanged
  fun_induction (Provider.ofClient ⟨.opsGenie, baseUrl, headers⟩ send.recorded).trip r h x with
  | case1 r h x e remarks x' hanswer =>
    obtain ⟨xs, hrecord, halerts⟩ := hleg hanswer
    exact .onward (hrecord ▸ .ended _ x') halerts
  | case2 r h x page remarks x' hanswer hlast =>
    obtain ⟨xs, hrecord, halerts⟩ := hleg hanswer
    exact .onward (hrecord ▸ .ended _ x') halerts
  | case3 r h x page remarks x' hanswer hmore hnone =>
    obtain ⟨xs, hrecord, halerts⟩ := hleg hanswer
    exact .onward (hrecord ▸ .ended _ x') halerts
  | case4 r h x page remarks x' hanswer hmore next hnext ih =>
    obtain ⟨xs, hrecord, halerts⟩ := hleg hanswer
    have hteams : next.teamIds = r.teamIds := by
      rw [FetchRequest.eq_of_next? hnext]
    rw [hrecord, hteams] at ih
    exact .onward ih halerts

end OutageLedger
