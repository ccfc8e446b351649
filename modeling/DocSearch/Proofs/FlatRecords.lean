/-
Records written flat and read back. The members of a document stand behind those that identify the
record, and where the two share a name the document's value is the one that is written
(`Record.flatMembers`). A document is read from what is left when the identity is taken out, so the
record comes back just when its document has none of the names that identify a record; and a
document that was read has none of them.
-/
import DocSearch.Proofs.AcceptedWhere
import DocSearch.Proofs.BodyFacts
import DocSearch.Proofs.LatestEntries

namespace DocSearch.Record

open Json (Decoded present)
open Json.Shape (Reads Builds)

variable {α : Type}

/-! ## What is written -/

/-- What the identity of a record is written as, row by row. -/
def identityRows (record : Record α) : List (String × Option Json) :=
  [("_index", some (.string record.index)), ("_id", some (.string record.id)),
   ("_version", record.version.map Json.ofInt64), ("_score", record.score.map Json.ofDouble)]

theorem identityMembers_eq (record : Record α) :
    record.identityMembers = present record.identityRows := by
  simp [identityMembers, identityRows, present, Json.optional]

theorem mem_identityNames {record : Record α} {name : String}
    (h : name ∈ Entries.names record.identityMembers) : name ∈ identityNames := by
  rw [identityMembers_eq] at h
  exact Json.mem_names_of_mem_present h

theorem nodup_identityMembers (record : Record α) :
    (Entries.names record.identityMembers).Nodup := by
  obtain ⟨index, id, version, score, data⟩ := record
  cases version <;> cases score <;> simp [identityMembers, Json.optional]

/-- The members of a record whose document has these: the identity, each value of it replaced by the
document's value of that name, and behind it the other members of the document. -/
def flatMembers (record : Record α) (members : List (String × Json)) : List (String × Json) :=
  (record.identityMembers.map fun entry => (entry.1, (members.lookup entry.1).getD entry.2))
    ++ members.filter fun member => member.1 ∉ Entries.names record.identityMembers

theorem toJson_eq_flatMembers [Document α] {record : Record α} {members : List (String × Json)}
    (hdocument : Document.toJson record.data = .ok (.object members))
    (hnodup : (Entries.names members).Nodup) :
    record.toJson = .ok (.object (record.flatMembers members)) := by
  have hset : Entries.setAll record.identityMembers members = record.flatMembers members :=
    Entries.setAll_eq_append record.nodup_identityMembers hnodup
  simp [toJson, hdocument, documentMembers, hset, bind, Except.bind]

/-- A document without the names of the identity stands as it is behind the identity. -/
theorem flatMembers_of_disjoint (record : Record α) {members : List (String × Json)}
    (h : ∀ name ∈ Entries.names members, name ∉ identityNames) :
    record.flatMembers members = record.identityMembers ++ members := by
  have hidentity : ∀ entry ∈ record.identityMembers,
      (entry.1, (members.lookup entry.1).getD entry.2) = entry := by
    intro entry hentry
    have hname : entry.1 ∈ identityNames := mem_identityNames (List.mem_map_of_mem hentry)
    simp [Entries.lookup_eq_none fun hmem => h entry.1 hmem hname]
  have hmembers : ∀ member ∈ members, member.1 ∉ Entries.names record.identityMembers :=
    fun member hmember hname => h member.1 (List.mem_map_of_mem hmember) (mem_identityNames hname)
  rw [flatMembers, List.filter_eq_self.mpr fun member hmember => by
    simpa using hmembers member hmember]
  simp [List.map_congr_left hidentity]

/-! ## What is read -/

/-- The identity is read as it was written, but for a score that has no JSON form. -/
theorem reads_identityShape (record : Record α) : (identityShape (α := α)).Reads record.identityRows
    (Record.mk record.index record.id record.version (keptBoost record.score)) :=
  Reads.of "Record" Record.mk
    |>.required (by simp) (Json.readString_string record.index)
    |>.required (by simp) (Json.readString_string record.id)
    |>.setting (by simp) (by simp)
      (.of_map (fun _ => Json.readInt64_eq_ok_iff.mpr rfl) (by nofun) record.version)
    |>.setting (by simp) (by simp) (optionally_boost record.score)

/-- Members that have none of the names of the identity make no difference to it. -/
theorem readMembers_identityMembers (record : Record α) {members : List (String × Json)}
    (h : ∀ name ∈ Entries.names members, name ∉ identityNames) :
    identityShape.readMembers (record.identityMembers ++ members)
      = .ok (Record.mk (α := α) record.index record.id record.version
          (keptBoost record.score)) := by
  have hspellings : (identityShape (α := α)).spellings = identityNames := rfl
  refine record.reads_identityShape.readMembers fun slot hslot => ?_
  have hnone : slot.given members = [] := by
    refine Json.Slot.given_eq_nil fun name hname => ?_
    rw [Bool.eq_false_iff]
    intro hanswers
    have hmem : name ∈ (identityShape (α := α)).spellings :=
      List.mem_flatMap.mpr ⟨slot, hslot, Json.Slot.answersTo_iff.mp hanswers⟩
    exact h name hname (hspellings ▸ hmem)
  rw [Json.Slot.given_append, hnone, List.append_nil, identityMembers_eq]

/-- A record is read back from what is written if its document is and has none of the names of the
identity. -/
theorem ofJson_flatMembers [Document α] {record : Record α} {members : List (String × Json)}
    (h : ∀ name ∈ Entries.names members, name ∉ identityNames)
    (hdocument : Document.ofJson (.object members) = .ok record.data)
    (hscore : FiniteBoost record.score) :
    ofJson (.object (record.flatMembers members)) = .ok record := by
  have hidentity : record.identityMembers.filter (fun member => !identityNames.contains member.1)
      = [] := by
    rw [List.filter_eq_nil_iff]
    intro entry hentry
    simpa using mem_identityNames (List.mem_map_of_mem hentry)
  have hmembers : members.filter (fun member => !identityNames.contains member.1) = members := by
    rw [List.filter_eq_self]
    intro member hmember
    simpa using h member.1 (List.mem_map_of_mem hmember)
  rw [flatMembers_of_disjoint record h, ofJson, readMembers_identityMembers record h,
    List.filter_append, hidentity, hmembers, List.nil_append]
  simp [hdocument, keptBoost_of_finite hscore, bind, Except.bind]

/-- What is read for the identity leaves the document to be filled in, and its score is finite. -/
theorem builds_identityShape : (identityShape (α := α)).Builds fun make =>
    ∀ document, (make document).data = document ∧ FiniteBoost (make document).score := by
  refine .setting <| .setting <| .required <| .required <| .of ?_
  intro index id version _ score hscore document
  exact ⟨rfl, finiteBoost_of_readDouble hscore⟩

/-- A document that is read as it stands has the members that are no part of the identity. -/
theorem of_ofJson {members : List (String × Json)} {record : Record Json}
    (h : ofJson (.object members) = .ok record) :
    record.data = .object (members.filter fun member => !identityNames.contains member.1) ∧
      FiniteBoost record.score := by
  obtain ⟨make, hmake, h⟩ := Json.bind_eq_ok_iff.mp h
  obtain ⟨document, hdocument, hrecord⟩ := Json.bind_eq_ok_iff.mp h
  cases hdocument
  cases hrecord
  exact builds_identityShape.of_readMembers hmake _

/-! ## Round trips -/

/-- **Records are written flat**: the identity, with the document's values where the two share a
name, and then the rest of the document. A record with a finite score comes back just when its
document has none of the names of the identity, and every record that was read comes back. -/
theorem toJson_flat :
    (∀ (record : Record Json) {members : List (String × Json)}, record.data = .object members →
      (Entries.names members).Nodup →
        record.toJson = .ok (.object (record.flatMembers members)) ∧
          ((∀ x ∈ record.score, x.IsFinite) →
            (ofJson (.object (record.flatMembers members)) = .ok record ↔
              ∀ name ∈ identityNames, name ∉ Entries.names members))) ∧
      ∀ {members : List (String × Json)} {record : Record Json}, (Entries.names members).Nodup →
        ofJson (.object members) = .ok record →
          ∃ json, record.toJson = .ok json ∧ ofJson json = .ok record := by
  refine ⟨?written, ?reread⟩
  case written =>
    intro record members hdata hnodup
    have hdocument : Document.toJson record.data = .ok (.object members) := congrArg Except.ok hdata
    refine ⟨toJson_eq_flatMembers hdocument hnodup, fun hscore => ⟨fun h name hname hmem => ?_, ?_⟩⟩
    · -- The document that comes back has none of the names of the identity.
      have hread : record.data = .object _ := (of_ofJson h).1
      rw [hdata, Json.object.injEq] at hread
      rw [hread] at hmem
      obtain ⟨member, hmember, rfl⟩ := List.mem_map.mp hmem
      simpa [hname] using (List.mem_filter.mp hmember).2
    · intro h
      have hothers : ∀ name ∈ Entries.names members, name ∉ identityNames :=
        fun name hmem hname => h name hname hmem
      exact ofJson_flatMembers hothers (congrArg Except.ok hdata.symm) hscore
  case reread =>
    intro members record hnodup h
    obtain ⟨hdata, hscore⟩ := of_ofJson h
    have hnames : (Entries.names
        (members.filter fun member => !identityNames.contains member.1)).Nodup :=
      hnodup.sublist (List.filter_sublist.map Prod.fst)
    have hothers : ∀ name ∈ Entries.names
        (members.filter fun member => !identityNames.contains member.1), name ∉ identityNames := by
      intro name hname
      obtain ⟨member, hmember, rfl⟩ := List.mem_map.mp hname
      simpa using (List.mem_filter.mp hmember).2
    exact ⟨_, toJson_eq_flatMembers (congrArg Except.ok hdata) hnames,
      ofJson_flatMembers hothers (congrArg Except.ok hdata.symm) hscore⟩

/-- A document with an id of its own, which takes the place of the record's, and with a version,
which stands at the document's place since the record has none; and an object with its members mixed
and a whole number for a score. -/
theorem toJson_flat_films :
    let document := [("_id", .string "x"), ("year", .ofUInt8 90), ("_version", .ofUInt8 3)]
    let record : Record Json := ⟨"films", "7", none, some ⟨0x3FF8000000000000⟩, .object document⟩
    let members := [("year", .ofUInt8 90), ("_score", .ofUInt8 2), ("_id", .string "7"),
      ("_version", .null), ("_index", .string "films")]
    let other : Record Json := ⟨"films", "7", none, some (.ofInt 2), .single "year" (.ofUInt8 90)⟩
    record.toJson = .ok (.object [("_index", .string "films"), ("_id", .string "x"),
        ("_score", .ofDouble ⟨0x3FF8000000000000⟩), ("year", .ofUInt8 90),
        ("_version", .ofUInt8 3)]) ∧
      ofJson (.object (record.flatMembers document)) ≠ .ok record ∧
      ofJson (.object members) = .ok other ∧
      ∃ json, other.toJson = .ok json ∧ ofJson json = .ok other := by
  intro document record members other
  have hdata : record.data = .object document := rfl
  have hflat := toJson_flat.1 record hdata (by decide +kernel)
  have hread : ofJson (.object members) = .ok other := rfl
  refine ⟨?_, ?_, hread, toJson_flat.2 (by decide +kernel) hread⟩
  · rw [hflat.1]
    decide +kernel
  · intro h
    have hnames := (hflat.2 (by decide +kernel)).mp h
    revert hnames
    decide +kernel

end DocSearch.Record
