import OutageLedger.Proofs.Import.Taken

/-
  The same alerts taken in twice. `TakesIn` says alert by alert what becomes of a store that performs every
  call, whatever its rows, and of the numbers. Main statement: `TakingAll.alike`, two runs over the same
  alerts from the same store add the same alerts and count the same numbers, but that a record whose time
  cannot be read back makes an error of an alert that is otherwise skipped.
-/

namespace OutageLedger

namespace ImportStats

/-- The numbers after an alert that was on record. -/
def known (s : ImportStats) (readsBack : Bool) : ImportStats :=
  if readsBack then { s with skipped := s.skipped + 1 } else { s with errors := s.errors + 1 }

/-- The numbers after an alert that was added. -/
def added (s : ImportStats) : ImportStats :=
  { s with newOutages := s.newOutages + 1, newAlerts := s.newAlerts + 1 }

end ImportStats

/-- What a store that performs every call makes of some alerts, with the additions and the numbers before
and after. -/
inductive TakesIn : Store → ImportStats → List Alert → List Addition → ImportStats → Prop
  | nil (s : Store) (stats : ImportStats) : TakesIn s stats [] [] stats
  | known {s : Store} {stats stats' : ImportStats} {a : Alert} {as : List Alert} {xs : List Addition}
      (h : s.hasKey a.key = true)
      (hrest : TakesIn s (stats.known (s.find a.key).isOk) as xs stats') :
    TakesIn s stats (a :: as) xs stats'
  | added {s : Store} {stats stats' : ImportStats} {a : Alert} {as : List Alert} {x : Addition}
      {xs : List Addition} (h : s.hasKey a.key = false) (hx : x.alert = a)
      (hrest : TakesIn (s.taken [x]) stats.added as xs stats') :
    TakesIn s stats (a :: as) (x :: xs) stats'

open Store

namespace Importer

variable {s s' : Store} {stats stats' : ImportStats} {a : Alert} {as : List Alert} {ts : List ImportTurn}

theorem ingesting_known (stats : ImportStats) {res : Except IngestError (Option Created)}
    (h : Ingesting a ts res) (hs : Serves Performs s ts s') (hkey : s.hasKey a.key = true) :
    s' = s ∧ s.Gains s' ts [] ∧ stats.count res = stats.known (s.find a.key).isOk := by
  cases h with
  | unknown e =>
    obtain ⟨s1, hcall, rfl⟩ := hs
    have hfind : s.find a.key = .error e := congrArg Prod.fst hcall
    obtain rfl : s = s' := congrArg Prod.snd hcall
    rw [hfind]
    exact ⟨rfl, .nil rfl rfl, rfl⟩
  | known r =>
    obtain ⟨s1, hcall, rfl⟩ := hs
    have hfind : s.find a.key = .ok (some r) := congrArg Prod.fst hcall
    obtain rfl : s = s' := congrArg Prod.snd hcall
    rw [hfind]
    exact ⟨rfl, .nil rfl rfl, rfl⟩
  | created h =>
    obtain ⟨s1, hcall, -⟩ := hs
    have hfind : s.find a.key = .ok none := congrArg Prod.fst hcall
    rcases find_of_hasKey hkey with ⟨r, hr⟩ | ⟨e, he⟩
    · cases hfind.symm.trans hr
    · cases hfind.symm.trans he

theorem ingesting_added (stats : ImportStats) {res : Except IngestError (Option Created)}
    (h : Ingesting a ts res) (hs : Serves Performs s ts s') (hfresh : s.Fresh (drawnIds ts))
    (hkey : s.hasKey a.key = false) :
    ∃ x : Addition, s.Gains s' ts [x] ∧ x.alert = a ∧ stats.count res = stats.added := by
  have hnone := find_of_not_hasKey hkey
  cases h with
  | unknown e =>
    obtain ⟨s1, hcall, -⟩ := hs
    cases (congrArg Prod.fst hcall).symm.trans hnone
  | known r =>
    obtain ⟨s1, hcall, -⟩ := hs
    cases (congrArg Prod.fst hcall).symm.trans hnone
  | created h =>
    obtain ⟨s1, hcall, hrest⟩ := hs
    obtain rfl : s = s1 := congrArg Prod.snd hcall
    obtain ⟨x, hgains, halert, rfl⟩ := creating_addition h hrest hfresh hkey
    exact ⟨x, ⟨hgains.store, hgains.ids, hgains.times⟩, halert, rfl⟩

/-- The alerts are taken in one after the other. -/
theorem takesIn_takingAll (h : TakingAll false stats as ts stats') (hs : Serves Performs s ts s')
    (hfresh : s.Fresh (drawnIds ts)) :
    ∃ xs : List Addition, s.Gains s' ts xs ∧ TakesIn s stats as xs stats' := by
  induction h generalizing s with
  | nil stats =>
    obtain rfl : s' = s := hs
    exact ⟨[], .nil rfl rfl, .nil s' stats⟩
  | @cons stats stats' stats'' a as ts us hone _ ih =>
    obtain ⟨s1, hs1, hs2⟩ := serves_append_iff.mp hs
    cases hone with
    | @processed stats ts res h =>
      obtain ⟨s2, hs3, rfl⟩ := serves_append_iff.mp hs1
      have hnote : s1.Gains s1 [⟨.note (remark a res), ()⟩] [] := .nil rfl rfl
      have hearly : s.Fresh (drawnIds ts) := by
        rw [drawnIds_append, drawnIds_append] at hfresh
        exact hfresh.of_append.of_append
      cases hkey : s.hasKey a.key with
      | true =>
        obtain ⟨rfl, hgains, hcount⟩ := ingesting_known stats h hs3 hkey
        have hboth := hgains.append hnote
        obtain ⟨xs, hgains', htakes⟩ := ih hs2 (hboth.fresh hfresh)
        rw [hcount] at htakes
        exact ⟨xs, hboth.append hgains', .known hkey htakes⟩
      | false =>
        obtain ⟨x, hgains, halert, hcount⟩ := ingesting_added stats h hs3 hearly hkey
        have hboth := hgains.append hnote
        obtain ⟨xs, hgains', htakes⟩ := ih hs2 (hboth.fresh hfresh)
        rw [hcount, hgains.store] at htakes
        exact ⟨x :: xs, hboth.append hgains', .added hkey halert htakes⟩

/-- In a dry run nothing is added. -/
theorem previewed_takingAll {rule : Rule} (h : TakingAll true stats as ts stats')
    (hs : Serves rule s ts s') : s.Gains s' ts [] ∧ stats' = stats.previewed as.length := by
  refine ⟨?_, h.eq_previewed⟩
  induction h with
  | nil stats =>
    obtain rfl : s' = s := hs
    exact .nil rfl rfl
  | cons hone _ ih =>
    cases hone with
    | previewed stats => exact ⟨(ih hs).store, (ih hs).ids, (ih hs).times⟩

end Importer

/-! ## Two times -/

/-- The same numbers, but that alerts on record may be counted as errors instead of as skipped. -/
structure ImportStats.Agree (s t : ImportStats) : Prop where
  totalFetched : s.totalFetched = t.totalFetched
  newOutages : s.newOutages = t.newOutages
  newAlerts : s.newAlerts = t.newAlerts
  known : s.skipped + s.errors = t.skipped + t.errors

namespace ImportStats.Agree

variable {s t : ImportStats}

theorem refl (s : ImportStats) : s.Agree s :=
  ⟨rfl, rfl, rfl, rfl⟩

theorem added (h : s.Agree t) : s.added.Agree t.added :=
  ⟨h.totalFetched, congrArg (· + 1) h.newOutages, congrArg (· + 1) h.newAlerts, h.known⟩

theorem known_known (h : s.Agree t) (b b' : Bool) : (s.known b).Agree (t.known b') := by
  have hsum : ∀ (s : ImportStats) (b : Bool),
      (s.known b).skipped + (s.known b).errors = s.skipped + s.errors + 1 := by
    intro s b
    cases b with
    | false => exact (Nat.add_assoc ..).symm
    | true => exact Nat.add_right_comm ..
  have hrest : ∀ (s : ImportStats) (b : Bool), (s.known b).totalFetched = s.totalFetched ∧
      (s.known b).newOutages = s.newOutages ∧ (s.known b).newAlerts = s.newAlerts := by
    intro s b
    cases b <;> exact ⟨rfl, rfl, rfl⟩
  obtain ⟨htotal, houtages, halerts⟩ := hrest s b
  obtain ⟨htotal', houtages', halerts'⟩ := hrest t b'
  refine ⟨?_, ?_, ?_, ?_⟩
  · rw [htotal, htotal', h.totalFetched]
  · rw [houtages, houtages', h.newOutages]
  · rw [halerts, halerts', h.newAlerts]
  · rw [hsum, hsum, h.known]

end ImportStats.Agree

/-- The alert of an addition, and whether its time on record can be read back. -/
def Addition.view (x : Addition) : Alert × Bool :=
  (x.alert, x.time.hasShortYear)

namespace TakesIn

variable {s : Store} {st st' st₁ st₁' : ImportStats} {as : List Alert} {ws zs xs ys : List Addition}

/-- Whether what was added can be looked up depends on what there is to see of it. -/
theorem isOk_find_taken {key : AlertKey} (h : s.hasKey key = false) (xs : List Addition) :
    ((s.taken xs).find key).isOk =
      ((xs.map (·.view)).find? (·.1.key = key)).all fun v => v.1.isLegible && v.2 := by
  rw [taken, isOk_find_grown h, List.find?_map, List.find?_map, Option.all_map, Option.all_map]
  rfl

theorem isOk_find_alike (hview : ws.map (·.view) = zs.map (·.view)) (key : AlertKey) :
    ((s.taken ws).find key).isOk = ((s.taken zs).find key).isOk := by
  cases h : s.hasKey key with
  | true => rw [taken, taken, find_grown_of_hasKey h, find_grown_of_hasKey h]
  | false => rw [isOk_find_taken h, isOk_find_taken h, hview]

/-- The same alerts taken in after the same additions make the same additions, and the same numbers if the
times of all that is added can be read back alike. -/
theorem alike (h : TakesIn (s.taken ws) st as xs st₁) (h' : TakesIn (s.taken zs) st' as ys st₁')
    (hprior : ws.map (·.alert) = zs.map (·.alert)) (hst : st.Agree st') :
    xs.map (·.alert) = ys.map (·.alert) ∧ st₁.Agree st₁' ∧
      ((ws ++ xs).map (·.view) = (zs ++ ys).map (·.view) → st = st' → st₁ = st₁') := by
  -- the two go hand in hand: an identity is on record in both of the stores or in neither
  induction as generalizing ws zs st st' xs ys with
  | nil =>
    cases h
    cases h'
    exact ⟨rfl, hst, fun _ hsame => hsame⟩
  | cons a as ih =>
    have hkeys : (s.taken ws).hasKey a.key = (s.taken zs).hasKey a.key := by
      rw [hasKey_taken, hasKey_taken, hprior]
    cases h with
    | known hkey hrest =>
      cases h' with
      | known hkey' hrest' =>
        obtain ⟨halerts, hagree, heq⟩ := ih hrest hrest' hprior (hst.known_known _ _)
        refine ⟨halerts, hagree, fun hview hsame => heq hview ?_⟩
        have hlength : ws.length = zs.length := by
          rw [← List.length_map, hprior, List.length_map]
        rw [List.map_append, List.map_append] at hview
        have hseen : ws.map (·.view) = zs.map (·.view) :=
          (List.append_inj hview (by rw [List.length_map, List.length_map, hlength])).1
        rw [isOk_find_alike hseen, hsame]
      | added hkey' hx' hrest' => cases (hkey.symm.trans hkeys).trans hkey'
    | @added _ _ _ _ _ x xs hkey hx hrest =>
      cases h' with
      | known hkey' hrest' => cases (hkey.symm.trans hkeys).trans hkey'
      | @added _ _ _ _ _ y ys hkey' hx' hrest' =>
        rw [taken_taken] at hrest hrest'
        have hnow : (ws ++ [x]).map (·.alert) = (zs ++ [y]).map (·.alert) := by
          rw [List.map_append, List.map_append, hprior, List.map_singleton, List.map_singleton, hx, hx']
        obtain ⟨halerts, hagree, heq⟩ := ih hrest hrest' hnow hst.added
        refine ⟨?_, hagree, fun hview hsame => heq ?_ (congrArg _ hsame)⟩
        · rw [List.map_cons, List.map_cons, hx, hx', halerts]
        · rw [List.append_assoc, List.append_assoc]
          exact hview

end TakesIn

/-! ## Two runs -/

namespace Importer

variable {s s₁ s₂ : Store} {dryRun : Bool} {st st₁ st₂ : ImportStats} {as : List Alert}
  {ts us : List ImportTurn}

/-- Two runs over the same alerts from the same store add the same alerts, each with an outage of its own,
and agree in their numbers. These are equal if the clock shows times that read back alike. -/
theorem TakingAll.alike (h : TakingAll dryRun st as ts st₁)
    (h' : TakingAll dryRun st as us st₂) (hs : Serves Performs s ts s₁)
    (hs' : Serves Performs s us s₂) (hfresh : s.Fresh (drawnIds ts)) (hfresh' : s.Fresh (drawnIds us)) :
    ∃ xs ys : List Addition, s.Gains s₁ ts xs ∧ s.Gains s₂ us ys ∧
      xs.map (·.alert) = ys.map (·.alert) ∧ st₁.Agree st₂ ∧
      ((clockTimes ts).map (·.hasShortYear) = (clockTimes us).map (·.hasShortYear) → st₁ = st₂) := by
  cases dryRun with
  | true =>
    obtain ⟨hgains, rfl⟩ := previewed_takingAll h hs
    obtain ⟨hgains', rfl⟩ := previewed_takingAll h' hs'
    exact ⟨[], [], hgains, hgains', rfl, .refl _, fun _ => rfl⟩
  | false =>
    obtain ⟨xs, hgains, htakes⟩ := takesIn_takingAll h hs hfresh
    obtain ⟨ys, hgains', htakes'⟩ := takesIn_takingAll h' hs' hfresh'
    rw [← s.taken_nil] at htakes htakes'
    obtain ⟨halerts, hagree, heq⟩ := htakes.alike htakes' rfl (.refl st)
    refine ⟨xs, ys, hgains, hgains', halerts, hagree, fun htimes => heq ?_ rfl⟩
    have hview : ∀ zs : List Addition, zs.map (·.view) =
        (zs.map (·.alert)).zip ((zs.map (·.time)).map (·.hasShortYear)) := by
      intro zs
      rw [List.map_map, List.zip_map']
      rfl
    rw [List.nil_append, List.nil_append, hview, hview, halerts, hgains.times, hgains'.times, htimes]

end Importer

end OutageLedger
