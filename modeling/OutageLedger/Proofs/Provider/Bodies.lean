import OutageLedger.Proofs.Json.Edit
import OutageLedger.Proofs.Json.Texts
import OutageLedger.Provider.Service

/-
  The bodies of answers, whatever the order of the members of their records, and whatever members these have beside
  the ones that are read. The shape of a body says where its records are (`Source.answerShape`), and no reader sees
  an edit of one. Main statement: `edited_bodies_answered_alike`, two bodies that are texts of values between which
  there are only edits give the same answer, or neither gives one.
-/

namespace OutageLedger

open Json Text

/-! ## Shapes -/

namespace Source

variable (source : Source)

/-- A reference to a team. -/
def teamReferenceShape : Shape :=
  .record [("id", .leaf), (source.vocabulary.teamName, .leaf)]

def reportShape : Shape :=
  .record [("id", .leaf), (source.vocabulary.title, .leaf), ("description", .leaf),
    (source.vocabulary.severity, .leaf), (source.vocabulary.createdAt, .leaf),
    (source.vocabulary.acknowledgedAt, .leaf), (source.vocabulary.resolvedAt, .leaf),
    ("teams", .list source.teamReferenceShape)]

def teamShape : Shape :=
  .record [("id", .leaf), ("name", .leaf)]

def pageShape : Source → Shape
  | .pagerDuty => .record [("incidents", .list pagerDuty.reportShape), ("more", .leaf)]
  | .opsGenie => .record [("data", .list opsGenie.reportShape), ("paging", .record [("next", .leaf)])]

/-- The body of the answer to a question. -/
def answerShape : ProviderQuery → Shape
  | .page _ => source.pageShape
  | .alert _ => .record [(source.itemName, source.reportShape)]
  | .teams => .record [(source.teamListName, .list teamShape)]

end Source

/-! ## Readers -/

section

variable (source : Source)

theorem blind_teamReference : Blind source.teamReferenceShape source.vocabulary.team? := by
  refine blind_record fun f f' h => ?_
  rw [h.withDefault "id" (by simp) (blind_leaf _), h.withDefault source.vocabulary.teamName (by simp) (blind_leaf _)]

theorem blind_report : Blind source.reportShape source.vocabulary.report? := by
  refine blind_record fun f f' h => ?_
  have hteams := h.withDefault "teams" (by cases source <;> simp [Source.vocabulary])
    (blind_list (blind_teamReference source)) []
  rw [h.required "id" (by simp) (blind_leaf _), h.optional source.vocabulary.title (by simp),
    h.optional "description" (by simp), h.optional source.vocabulary.severity (by simp),
    h.required source.vocabulary.createdAt (by simp) (blind_leaf _),
    h.optional source.vocabulary.acknowledgedAt (by simp), h.optional source.vocabulary.resolvedAt (by simp), hteams]

theorem blind_nextLink : Blind (.record [("next", .leaf)]) nextLink? := by
  refine blind_record fun f f' h => ?_
  rw [h.optional "next" (by simp)]

theorem blind_reportPage : Blind source.pageShape source.reportPage? := by
  cases source with
  | pagerDuty =>
    refine blind_record fun f f' h => ?_
    rw [h.withDefault "incidents" (by simp) (blind_list (blind_report .pagerDuty)),
      h.withDefault "more" (by simp) (blind_leaf _)]
  | opsGenie =>
    refine blind_record fun f f' h => ?_
    rw [h.withDefault "data" (by simp) (blind_list (blind_report .opsGenie)),
      h.withDefault "paging" (by simp) blind_nextLink]

theorem blind_item : Blind (.record [(source.itemName, source.reportShape)]) source.item? := by
  refine blind_record fun f f' h => ?_
  rw [h.required source.itemName (by simp) (blind_report source)]

/-- Whether or not the id may be left out. -/
theorem blind_team : Blind Source.teamShape source.team? := by
  refine blind_record fun f f' h => ?_
  rw [h.required "id" (by simp) (blind_leaf _), h.withDefault "id" (by simp) (blind_leaf _),
    h.withDefault "name" (by simp) (blind_leaf _)]

theorem blind_teams : Blind (.record [(source.teamListName, .list Source.teamShape)]) source.teams? := by
  refine blind_record fun f f' h => ?_
  rw [h.withDefault source.teamListName (by simp) (blind_list (blind_team source))]

end

/-! ## Answers -/

/-- The answer that a value gives to a question. -/
def Source.answer? (source : Source) : (q : ProviderQuery) → Json → Option q.Answer
  | .page r => fun j => (source.reportPage? j).map (·.alertPage source r.teamIds)
  | .alert _ => fun j => (source.item? j).map (·.alert source)
  | .teams => source.teams?

theorem blind_answer (source : Source) (q : ProviderQuery) : Blind (source.answerShape q) (source.answer? q) := by
  cases q with
  | page r => exact (blind_reportPage source).map _
  | alert id => exact (blind_item source).map _
  | teams => exact blind_teams source

theorem answerOfBytes_of_written (source : Source) (q : ProviderQuery) {j : Json} {body : List UInt8}
    (h : j.Written body) : source.answerOfBytes body q = source.decoded (source.answer? q j) := by
  have hread := ofBytes?_eq_some_iff.mpr h
  cases q with
  | page r =>
    unfold Source.answerOfBytes Source.pageOfBytes?
    rw [hread]
    rfl
  | alert id =>
    unfold Source.answerOfBytes Source.alertOfBytes?
    rw [hread]
    rfl
  | teams =>
    unfold Source.answerOfBytes Source.teamsOfBytes?
    rw [hread]
    rfl

/-- For either service and each kind of question: of two bodies that are JSON texts, however they are laid out, with
the members of any record in any order and with any others put in or left out, either both give one answer or
neither is what the service promises. -/
theorem edited_bodies_answered_alike {source : Source} {q : ProviderQuery} {j j' : Json} {body body' : List UInt8}
    (hedited : Edited (source.answerShape q) j j') (hbody : j.Written body) (hbody' : j'.Written body') :
    (∃ answer, source.answerOfBytes body q = .ok answer ∧ source.answerOfBytes body' q = .ok answer) ∨
      ∃ detail detail', source.answerOfBytes body q = .error (.decode source detail) ∧
        source.answerOfBytes body' q = .error (.decode source detail') := by
  have hsame : source.answer? q j = source.answer? q j' := (blind_answer source q).edited hedited
  rw [answerOfBytes_of_written source q hbody, answerOfBytes_of_written source q hbody', ← hsame]
  cases source.answer? q j with
  | none => exact Or.inr ⟨_, _, rfl, rfl⟩
  | some answer => exact Or.inl ⟨answer, rfl, rfl⟩

namespace Sample

/-- The first page of the alerts of a team. -/
def teamPageRequest : FetchRequest :=
  ⟨.epoch, none, ["t1"], 0, 0⟩

def plainTeam : Json :=
  .object [(some "id", .text "t1"), (some "name", .text "ops")]

/-- That team with a member more, which is nested deeper than what is read. -/
def otherTeam : Json :=
  .object [(some "id", .text "t1"), (some "x", .array [.array [.object [(some "id", .null)]]]),
    (some "name", .text "ops")]

def reportsOf (team : Json) : Json :=
  .array [.object [(some "id", .text "A1"), (some "createdAt", .text "1970-01-01T00:00:00Z"),
    (some "teams", .array [team])]]

def plainPage : Json :=
  .object [(some "data", reportsOf plainTeam), (some "paging", .object [(some "next", .text "n")])]

/-- That page the other way round, with the other team. -/
def otherPage : Json :=
  .object [(some "paging", .object [(some "next", .text "n")]), (some "data", reportsOf otherTeam)]

/-- What both pages say. -/
def teamPage : AlertPage :=
  ⟨[⟨"A1", .opsGenie, "ops", "", "", "", .epoch, none, none⟩], true, 1⟩

end Sample

theorem edited_otherPage :
    Edited (Source.opsGenie.answerShape (.page Sample.teamPageRequest)) Sample.plainPage Sample.otherPage := by
  have hteams : Edit (.list Source.opsGenie.teamReferenceShape) (.array [Sample.plainTeam])
      (.array [Sample.otherTeam]) :=
    .item (.insert (by decide) _ [_] [_]) [] []
  have hreports : Edit (.list Source.opsGenie.reportShape) (Sample.reportsOf Sample.plainTeam)
      (Sample.reportsOf Sample.otherTeam) :=
    .item (.member (by simp [Source.vocabulary]) hteams [_, _] []) [] []
  exact .trans _ _ _ (.rel _ _ (.permute (.swap _ _ []))) (.rel _ _ (.member (by simp) hreports [_] []))

/-- The page in another order, with a member in the team of a report that is no field of it. -/
theorem edited_bodies_answered_alike_of_page :
    Edited (Source.opsGenie.answerShape (.page Sample.teamPageRequest)) Sample.plainPage Sample.otherPage ∧
      Sample.plainPage.Written (Utf8.encode Sample.plainPage.toText.toList) ∧
      Sample.otherPage.Written (Utf8.encode Sample.otherPage.toText.toList) ∧
      Source.opsGenie.answerOfBytes (Utf8.encode Sample.otherPage.toText.toList) (.page Sample.teamPageRequest) =
        .ok Sample.teamPage := by
  have hplain : Sample.plainPage.Written (Utf8.encode Sample.plainPage.toText.toList) :=
    ofBytes?_eq_some_iff.mp (ofBytes?_toText rfl)
  have hother : Sample.otherPage.Written (Utf8.encode Sample.otherPage.toText.toList) :=
    ofBytes?_eq_some_iff.mp (ofBytes?_toText rfl)
  have hanswer : Source.opsGenie.answerOfBytes (Utf8.encode Sample.plainPage.toText.toList)
      (.page Sample.teamPageRequest) = .ok Sample.teamPage := by
    rw [answerOfBytes_of_written _ _ hplain]
    rfl
  rcases edited_bodies_answered_alike edited_otherPage hplain hother with ⟨answer, h, h'⟩ | ⟨_, _, h, -⟩
  · obtain rfl := Except.ok.inj (hanswer.symm.trans h)
    exact ⟨edited_otherPage, hplain, hother, h'⟩
  · cases hanswer.symm.trans h

end OutageLedger
