import OutageLedger.Proofs.Instant.ReadBack
import OutageLedger.Proofs.Uuid
import OutageLedger.Store.Row

/-
  Rows read back. Every cell of the row of an outage or a record reads back but for times with a year that the
  strict reader refuses: such a row is written and cannot be read. Main statements: `Outage.yields_row` and
  `AlertRecord.yields_row`, a row is read as what it was written from if that is legible, and not at all if it
  is not.
-/

namespace OutageLedger

/-! ## Readings that may be refused -/

/-- The reading gives a value if that is legible, and an error otherwise. -/
structure Yields {ε α : Type} (p : Except ε α) (a : α) (legible : Bool) : Prop where
  ok : legible = true → p = .ok a
  error : legible = false → ∃ e, p = .error e

namespace Yields

variable {ε α β : Type} {p : Except ε α} {a : α} {k : α → Except ε β} {b : β} {legible legible' : Bool}

theorem pure (a : α) : Yields (.ok a : Except ε α) a true :=
  ⟨fun _ => rfl, fun h => by cases h⟩

/-- What is read first is never refused. -/
theorem of_ok (h : p = .ok a) (h' : Yields (k a) b legible) : Yields (p >>= k) b legible := by
  rw [h]
  exact h'

theorem isOk (h : Yields p a legible) : p.isOk = legible := by
  cases legible with
  | true =>
    rw [h.ok rfl]
    rfl
  | false =>
    obtain ⟨e, he⟩ := h.error rfl
    rw [he]
    rfl

theorem bind (h : Yields p a legible) (h' : Yields (k a) b legible') :
    Yields (p >>= k) b (legible && legible') := by
  cases legible with
  | true => exact of_ok (h.ok rfl) h'
  | false =>
    obtain ⟨e, he⟩ := h.error rfl
    constructor
    · intro hlegible
      cases hlegible
    · exact fun _ => ⟨e, by rw [he]; rfl⟩

/-- A row of readings gives all values if each is legible, and an error otherwise. -/
theorem mapM {read : β → Except ε α} {write : α → β} {isLegible : α → Bool}
    (h : ∀ a, Yields (read (write a)) a (isLegible a)) (as : List α) :
    Yields ((as.map write).mapM read) as (as.all isLegible) := by
  induction as with
  | nil => exact pure []
  | cons a as ih =>
    rw [List.map_cons, List.mapM_cons, List.all_cons, ← Bool.and_true (as.all isLegible)]
    exact (h a).bind (ih.bind (pure (a :: as)))

end Yields

/-! ## Cells -/

namespace RowReader

variable {r : RowReader} {i : Nat}

theorem text_of_cell {s : String} (h : r.row.cell i = .text s) : r.text i = .ok s := by
  unfold text
  rw [h]

theorem parsed_of_cell {α ε : Type} {s : String} (h : r.row.cell i = .text s)
    (cause : ε → CellError) {read : String → Except ε α} {a : α} (ha : read s = .ok a) :
    r.parsed i cause read = .ok a := by
  unfold parsed
  simp only [text_of_cell h, bind, Except.bind, ha]

theorem parsed_of_cell_of_error {α ε : Type} {s : String} (h : r.row.cell i = .text s)
    (cause : ε → CellError) {read : String → Except ε α} {e : ε} (he : read s = .error e) :
    r.parsed i cause read = .error (.badText i (cause e)) := by
  unfold parsed
  simp only [text_of_cell h, bind, Except.bind, he]

theorem uuid_of_cell {u : Uuid} (h : r.row.cell i = .uuid u) : r.uuid i = .ok u :=
  parsed_of_cell h _ u.ofText_toString

theorem yields_time {t : Instant} (h : r.row.cell i = .time t) : Yields (r.time i) t t.hasShortYear := by
  constructor
  · exact fun ht => parsed_of_cell h _ (Instant.ofText_stamp ht)
  · intro ht
    obtain ⟨e, he⟩ := Instant.ofText_stamp_of_long_year ht
    exact ⟨_, parsed_of_cell_of_error h _ he⟩

theorem yields_optionTime {t : Option Instant} (h : r.row.cell i = .optionTime t) :
    Yields (r.optionTime i) t (t.all (·.hasShortYear)) := by
  unfold optionTime
  rw [h]
  cases t with
  | none => exact .pure none
  | some t =>
    have ht := yields_time h
    show Yields ((r.time i).map some) (some t) t.hasShortYear
    constructor
    · intro hyear
      rw [ht.ok hyear]
      rfl
    · intro hyear
      obtain ⟨e, he⟩ := ht.error hyear
      exact ⟨e, by rw [he]; rfl⟩

end RowReader

/-! ## Outages -/

namespace Outage

/-- Every time of the outage has a year that reads back. -/
def isLegible (o : Outage) : Bool :=
  o.createdAt.hasShortYear && (o.updatedAt.hasShortYear && o.resolvedAt.all (·.hasShortYear))

theorem yields_row (o : Outage) : Yields (ofRow o.row) o o.isLegible := by
  let reader : RowReader := ⟨outageTable, o.row⟩
  have hname : OutageStatus.ofName o.status.name = .ok o.status := by
    unfold OutageStatus.ofName
    rw [OutageStatus.ofName?_name]
  have hstatus : reader.parsed 3 .status OutageStatus.ofName = .ok o.status :=
    RowReader.parsed_of_cell (s := o.status.name) rfl _ hname
  have hid : reader.uuid 0 = .ok o.id := RowReader.uuid_of_cell rfl
  have htitle : reader.text 1 = .ok o.title := RowReader.text_of_cell rfl
  have hdescription : reader.text 2 = .ok o.description := RowReader.text_of_cell rfl
  have hseverity : reader.text 4 = .ok o.severity := RowReader.text_of_cell rfl
  have hcreated : Yields (reader.time 5) o.createdAt _ := RowReader.yields_time rfl
  have hupdated : Yields (reader.time 6) o.updatedAt _ := RowReader.yields_time rfl
  have hresolved : Yields (reader.optionTime 7) o.resolvedAt _ := RowReader.yields_optionTime rfl
  have hlegible : o.isLegible = (o.createdAt.hasShortYear &&
      (o.updatedAt.hasShortYear && (o.resolvedAt.all (·.hasShortYear) && true))) := by
    rw [Bool.and_true]
    rfl
  rw [hlegible]
  exact .of_ok hstatus <| .of_ok hid <| .of_ok htitle <| .of_ok hdescription <| .of_ok hseverity <|
    hcreated.bind <| hupdated.bind <| hresolved.bind <| .pure o

end Outage

/-! ## Records -/

/-- All times of the alert have years that read back. -/
def Alert.isLegible (a : Alert) : Bool :=
  a.triggeredAt.hasShortYear && a.acknowledgedAt.all (·.hasShortYear) &&
    a.resolvedAt.all (·.hasShortYear)

namespace AlertRecord

/-- Every time of the record has a year that reads back. -/
def isLegible (r : AlertRecord) : Bool :=
  r.alert.triggeredAt.hasShortYear && r.alert.acknowledgedAt.all (·.hasShortYear) &&
    r.alert.resolvedAt.all (·.hasShortYear) && r.createdAt.hasShortYear

theorem yields_row (r : AlertRecord) : Yields (ofRow r.row) r r.isLegible := by
  let reader : RowReader := ⟨alertTable, r.row⟩
  have hname : Source.ofName r.alert.source.name = .ok r.alert.source := by
    unfold Source.ofName
    rw [Source.ofName?_name]
  have hsource : reader.parsed 3 .source Source.ofName = .ok r.alert.source :=
    RowReader.parsed_of_cell (s := r.alert.source.name) rfl _ hname
  have hid : reader.uuid 0 = .ok r.id := RowReader.uuid_of_cell rfl
  have houtage : reader.uuid 1 = .ok r.outageId := RowReader.uuid_of_cell rfl
  have hnumber : reader.text 2 = .ok r.alert.externalId := RowReader.text_of_cell rfl
  have hteam : reader.text 4 = .ok r.alert.teamName := RowReader.text_of_cell rfl
  have htitle : reader.text 5 = .ok r.alert.title := RowReader.text_of_cell rfl
  have hdescription : reader.text 6 = .ok r.alert.description := RowReader.text_of_cell rfl
  have hseverity : reader.text 7 = .ok r.alert.severity := RowReader.text_of_cell rfl
  have htriggered : Yields (reader.time 8) r.alert.triggeredAt _ := RowReader.yields_time rfl
  have hacknowledged : Yields (reader.optionTime 9) r.alert.acknowledgedAt _ :=
    RowReader.yields_optionTime rfl
  have hresolved : Yields (reader.optionTime 10) r.alert.resolvedAt _ := RowReader.yields_optionTime rfl
  have hcreated : Yields (reader.time 11) r.createdAt _ := RowReader.yields_time rfl
  have hlegible : r.isLegible = (r.alert.triggeredAt.hasShortYear &&
      (r.alert.acknowledgedAt.all (·.hasShortYear) &&
        (r.alert.resolvedAt.all (·.hasShortYear) && (r.createdAt.hasShortYear && true)))) := by
    unfold isLegible
    rw [Bool.and_true, Bool.and_assoc, Bool.and_assoc]
  rw [hlegible]
  exact .of_ok hsource <| .of_ok hid <| .of_ok houtage <| .of_ok hnumber <| .of_ok hteam <|
    .of_ok htitle <| .of_ok hdescription <| .of_ok hseverity <| htriggered.bind <|
    hacknowledged.bind <| hresolved.bind <| hcreated.bind <| .pure r

end AlertRecord

end OutageLedger
