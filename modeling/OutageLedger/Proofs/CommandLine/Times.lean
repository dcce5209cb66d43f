import Mathlib.Data.List.Forall2
import OutageLedger.Proofs.CommandLine.Mode
import OutageLedger.Proofs.Instant.ReadBack

/-
  Times on the command line. The offset from UTC that a time is written in makes no difference, neither to the instant
  that it is read as nor to anything that comes of the command line. Main statement: `offset_makes_no_difference`.
-/

namespace OutageLedger

open CommandLine (Item Spells)

/-! ## Texts of an instant -/

namespace Instant

/-- The text shows the instant at an offset of less than a day, in a year of four digits. -/
def IsTimeText (t : Instant) (s : String) : Prop :=
  ∃ minutes : Int, minutes.natAbs < 24 * 60 ∧ 0 ≤ (t.reading (minutes * 60)).date.year ∧
    (t.reading (minutes * 60)).date.year ≤ 9999 ∧ t.IsWrittenAt minutes s.toList

theorem IsTimeText.readDate_eq {t : Instant} {s : String} (h : t.IsTimeText s) : readDate s = .ok t := by
  obtain ⟨minutes, hminutes, h0, h1, hwritten⟩ := h
  unfold readDate ofText
  rw [strict_of_isWrittenAt hwritten hminutes h0 h1]

end Instant

/-! ## Times in another form -/

/-- The items are the same, but that the second one may have another text for the time in it. -/
inductive CommandLine.Item.Rewritten (s s' : String) : Item → Item → Prop
  | same (item : Item) : Rewritten s s' item item
  | since : Rewritten s s' (.setting .since s) (.setting .since s')
  | upTo : Rewritten s s' (.setting .upTo s) (.setting .upTo s')

section

variable {t : Instant} {s s' : String} (h : t.IsTimeText s) (h' : t.IsTimeText s')

include h h'

theorem take_rewritten {item item' : Item} (hitem : item.Rewritten s s' item') (g : Given) :
    g.take item = g.take item' := by
  cases hitem with
  | same => rfl
  | since | upTo => simp only [Given.take, Given.assign, h.readDate_eq, h'.readDate_eq]

theorem foldlM_rewritten {items items' : List Item} (hitems : List.Forall₂ (Item.Rewritten s s') items items')
    (g : Given) : items.foldlM Given.take g = items'.foldlM Given.take g := by
  induction hitems generalizing g with
  | nil => rfl
  | cons hitem _ ih =>
    rw [List.foldlM_cons, List.foldlM_cons, take_rewritten h h' hitem]
    exact bind_congr ih

end

namespace CommandLine

/-- Whatever its offset, a time is read as the instant that it shows, also in a leap second or where UTC is a day
ahead or behind. A window begins or ends at just that instant, and a command line with another text of it in its
place is read as the same settings, or refused for the same reason. -/
theorem offset_makes_no_difference {t : Instant} {s s' : String} (h : t.IsTimeText s) (h' : t.IsTimeText s') :
    readDate s = .ok t ∧
      (∀ arguments environment c, ofArguments arguments environment = .ok c →
        ∀ now request dryRun, c.mode now = .ok (.backfill request dryRun) →
          (Flag.since.IsSet arguments s → request.since = t) ∧
            (Flag.upTo.IsSet arguments s → request.upTo = some t)) ∧
      ∀ arguments arguments' items items', Spells arguments items → Spells arguments' items' →
        List.Forall₂ (Item.Rewritten s s') items items' →
          ∀ environment, ofArguments arguments environment = ofArguments arguments' environment := by
  refine ⟨h.readDate_eq, ?_, ?_⟩
  · intro arguments environment c haccepted now request dryRun hmode
    have hfollows := follows_of_ofArguments haccepted
    obtain ⟨m, hm⟩ := hfollows.exists_asksFor now
    obtain rfl := Except.ok.inj (hm.mode_eq.symm.trans hmode)
    have hread : (readDate s).toOption = some t := toOption_eq_some_iff.mpr h.readDate_eq
    cases hm with
    | backfill hteams halert hsince =>
      constructor
      · intro hset
        have hsame := (hfollows.since.read s hset).symm.trans hread
        exact Option.some.inj (hsince.symm.trans hsame)
      · intro hset
        have hsame : c.upTo = some t := (hfollows.upTo.read s hset).symm.trans hread
        rw [hsame]
        rfl
  · intro arguments arguments' items items' hspells hspells' hitems environment
    unfold ofArguments
    rw [Given.readFrom_eq hspells, Given.readFrom_eq hspells']
    exact congrArg (· >>= _) (foldlM_rewritten h h' hitems .none)

end CommandLine

namespace Sample

/-- Half-way through a leap second, in the year 10000 in UTC. -/
def lateLeapSecond : Instant :=
  (Instant.ofParts? 253402345799 1500000000).getD .epoch

def eveningText : String := "9999-12-31T23:59:60.5-12:30"

theorem isTimeText_evening : lateLeapSecond.IsTimeText eveningText := by
  refine ⟨-750, by decide, by decide +kernel, by decide +kernel, ['.', '5'], "-12:30".toList, ?_, ?_, ?_⟩
  · exact .point (List.all_eq_true.mp (by decide)) (by decide) (by decide)
  · exact .behind (by decide)
  · decide +kernel

def afternoonText : String := "9999-12-31T14:29:60.50000000000-22:00"

theorem isTimeText_afternoon : lateLeapSecond.IsTimeText afternoonText := by
  refine ⟨-1320, by decide, by decide +kernel, by decide +kernel, '.' :: '5' :: List.replicate 10 '0',
    "-22:00".toList, ?_, ?_, ?_⟩
  · exact .point (List.all_eq_true.mp (by decide)) (by decide) (by decide +kernel)
  · exact .behind (by decide)
  · decide +kernel

end Sample

theorem offset_makes_no_difference_of_leap_second :
    readDate Sample.eveningText = .ok Sample.lateLeapSecond ∧ ∀ environment,
      CommandLine.ofArguments ["--service", "pagerduty", "--since", Sample.eveningText] environment =
        CommandLine.ofArguments ["--service=pagerduty", "--since=" ++ Sample.afternoonText] environment := by
  have hread := CommandLine.offset_makes_no_difference Sample.isTimeText_evening Sample.isTimeText_afternoon
  have hservice : IsPlain "pagerduty" := fun c cs h => absurd (List.cons.inj h).1 (by decide)
  have htime : IsPlain Sample.eveningText := fun c cs h => absurd (List.cons.inj h).1 (by decide)
  have hspells : Spells (["--service", "pagerduty"] ++ (["--since", Sample.eveningText] ++ []))
      [.setting .service "pagerduty", .setting .since Sample.eveningText] :=
    .cons (.apart rfl hservice) (.cons (.apart rfl htime) .nil)
  have hspells' : Spells (["--service=pagerduty"] ++ (["--since=" ++ Sample.afternoonText] ++ []))
      [.setting .service "pagerduty", .setting .since Sample.afternoonText] :=
    .cons (.joined rfl "pagerduty") (.cons (.joined rfl Sample.afternoonText) .nil)
  exact ⟨hread.1, hread.2.2 _ _ _ _ hspells hspells' (.cons (.same _) (.cons .since .nil))⟩

end OutageLedger
