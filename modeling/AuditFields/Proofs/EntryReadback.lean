/-
Reading back an entry of an audit log.  The attributes of an entry stand under
different keys, and its changes are read for the same kind of object as before.  A
change may be written under another key than the one it came under, but it is always
read again, and as one of the same attribute.
-/
import AuditFields.Audit.LogEntry
import AuditFields.Proofs.NestedValues
import AuditFields.Proofs.UnresolvedChanges

namespace AuditFields

namespace AuditEvent

@[simp] theorem code_ofCode (code : UInt16) : (ofCode code).code = code := by
  rw [ofCode]
  split
  · rename_i index hfound
    exact of_decide_eq_true (List.findFinIdx?_eq_some_iff.1 hfound).1
  · rfl

end AuditEvent

namespace AuditChange

variable {target : Option ChangeTarget} {data : WireObject}

/-- The object of an item of changes, if it is one whose key is a text. -/
def keyedObject? : Json → Option WireObject
  | .object members =>
      match WireObject.get? "key" members with
      | some (.string _) => some members
      | _ => none
  | _ => none

/-- An object has a text as its key, or it is no change of any target. -/
theorem keyedObject?_cases (data : WireObject) :
    (∃ key, data.get? "key" = some (.string key) ∧ keyedObject? (.object data) = some data) ∨
      keyedObject? (.object data) = none ∧ ∀ target, ofWire? target data = none := by
  simp only [keyedObject?, ofWire?]
  cases data.get? "key" with
  | none => exact Or.inr ⟨rfl, fun _ => rfl⟩
  | some json =>
      cases json with
      | string key => exact Or.inl ⟨key, rfl, rfl⟩
      | null | bool | number | array | object => exact Or.inr ⟨rfl, fun _ => rfl⟩

/-- An object whose key is a text is a change, named for its key if that is not resolved
and for the attribute behind it if it is. -/
theorem exists_ofWire? (target : Option ChangeTarget) {key : String}
    (hkey : data.get? "key" = some (.string key)) :
    ∃ change, ofWire? target data = some change ∧
      ((target.bind fun target => target.resolveKey key) = none ∧ change.name = key ∨
        ∃ resolved, (target.bind fun target => target.resolveKey key) = some resolved ∧
          change.name = resolved.entry.name) := by
  cases hresolved : target.bind fun target => target.resolveKey key with
  | none => exact ⟨_, ofWire?_of_unresolved hkey hresolved, Or.inl ⟨rfl, rfl⟩⟩
  | some resolved =>
      obtain ⟨target, rfl, hfound⟩ := Option.bind_eq_some_iff.1 hresolved
      refine ⟨_, ofWire?_of_resolveKey hkey hfound, Or.inr ⟨resolved, rfl, ?_⟩⟩
      cases resolved.placement <;> rfl

/-- What is read of the written form of a change. -/
def reread? (target : Option ChangeTarget) (change : AuditChange) : Option AuditChange :=
  ofWire? target (change.toWire target)

/-- A change of an attribute is written under a key of that attribute. -/
theorem exists_reread?_of_resolveName {target : ChangeTarget} {change : AuditChange}
    {resolved : Resolved} (hname : target.resolveName change.name = some resolved) :
    ∃ again, change.reread? (some target) = some again ∧ again.name = change.name := by
  have hentry := (ChangeTarget.name_eq_of_resolveName hname).1
  rw [reread?]
  rcases toWire_cases hname with ⟨hkey, hwrite⟩ | ⟨key, value, hkey, -, hwrite⟩ |
    ⟨key, value, hkey, -, hwrite⟩
  · rw [hwrite, ofWire?_writeSides hkey]
    refine ⟨_, rfl, ?_⟩
    cases resolved.placement <;> exact hentry
  · rw [hwrite, ofWire?_writeSides hkey]
    exact ⟨_, rfl, hentry⟩
  · rw [hwrite, ofWire?_writeSides hkey]
    exact ⟨_, rfl, hentry⟩

/-- A change that was read is read again from its written form, as one of the same
attribute. -/
theorem exists_reread? {change : AuditChange} (hread : ofWire? target data = some change) :
    ∃ again, change.reread? target = some again ∧ again.name = change.name := by
  rcases keyedObject?_cases data with ⟨key, hmember, -⟩ | ⟨-, hnone⟩
  · obtain ⟨found, hfound, hkey⟩ := exists_ofWire? target hmember
    rw [hfound, Option.some.injEq] at hread
    subst hread
    cases hname : target.bind fun target => target.resolveName found.name with
    | some resolved =>
        obtain ⟨target, rfl, hname⟩ := Option.bind_eq_some_iff.1 hname
        exact exists_reread?_of_resolveName hname
    | none =>
        -- the name is that of a key, since the name behind a key would be an attribute
        rcases hkey with ⟨hunresolved, rfl⟩ | ⟨resolved, hresolved, hentry⟩
        · rw [reread?, toWire_of_resolveName_eq_none hname,
            ofWire?_of_unresolved (get?_key_writeSides _ _ _ _) hunresolved]
          exact ⟨_, rfl, rfl⟩
        · obtain ⟨target, rfl, hresolved⟩ := Option.bind_eq_some_iff.1 hresolved
          have hattribute := ChangeTarget.resolveName_of_resolveKey hresolved
          rw [← hentry] at hattribute
          rw [Option.bind_some, hattribute] at hname
          contradiction
  · rw [hnone target] at hread
    contradiction

end AuditChange

namespace AuditEntry

/-- Numbers that are no code of sixteen bits are lost, but the action they are read as
is not. -/
theorem eventOfNumber_numberOfEvent (event : AuditEvent) :
    eventOfNumber (numberOfEvent event) = .ofCode event.code := by
  have hlt := event.code.toNat_lt
  have hnumber : (numberOfEvent event).toInt = event.code.toNat :=
    Int64.toInt_ofNat_of_lt (by omega)
  rw [eventOfNumber, if_pos (by omega), hnumber, Int.toNat_natCast, UInt16.ofNat_toNat]

/-- Reading a number gives the action of a code. -/
theorem exists_eventOfNumber_eq (number : Int64) :
    ∃ code, eventOfNumber number = .ofCode code := by
  rw [eventOfNumber]
  split
  · exact ⟨_, rfl⟩
  · exact ⟨65535, by decide +kernel⟩

/-- Entries that have a wire form of their own. -/
structure IsNormal (entry : AuditEntry) : Prop where
  event : .ofCode entry.event.code = entry.event
  reason : entry.reason ≠ some ""

theorem isNormal_ofWire (data : WireObject) : (ofWire data).IsNormal where
  event := by
    obtain ⟨code, hcode⟩ := exists_eventOfNumber_eq (actionField.parse data)
    change AuditEvent.ofCode (eventOfNumber (actionField.parse data)).code =
      eventOfNumber (actionField.parse data)
    rw [hcode, AuditEvent.code_ofCode]
  reason := @ScalarCodec.isNormal_decode (.optionalText (.atMost 512)) (by decide) _

/-- The attributes in the order in which they are written. -/
def attributes (entry : AuditEntry) : List Member :=
  [⟨.named "id" (.id .auditLogEntry), entry.id⟩,
    ⟨.named "action_type" (.int 0 (.atLeast 0)), numberOfEvent entry.event⟩,
    ⟨.named "user_id" (.id .user), entry.userId⟩,
    ⟨.named "target_id" (.id .generic), entry.targetId⟩,
    ⟨.named "reason" (.optionalText (.atMost 512)), entry.reason⟩]

theorem map_key_attributes (entry : AuditEntry) :
    entry.attributes.map (·.field.key) =
      ["id", "action_type", "user_id", "target_id", "reason"] := rfl

theorem isNormal_attributes {entry : AuditEntry} (hentry : entry.IsNormal) :
    ∀ member ∈ entry.attributes, member.IsNormal := by
  simp only [attributes, List.forall_mem_cons]
  exact ⟨trivial, trivial, trivial, trivial, hentry.reason, List.forall_mem_nil _⟩

/-- The changes as a member. -/
def changesJson (entry : AuditEntry) : Json :=
  .array (entry.changes.map fun change => .object (change.toWire entry.event.target))

theorem toWire_eq_putAll (entry : AuditEntry) (withDefaults : Bool) :
    entry.toWire withDefaults =
      if withDefaults || !entry.changes.isEmpty then
        (Member.putAll entry.attributes withDefaults []).insert "changes" entry.changesJson
      else Member.putAll entry.attributes withDefaults [] := rfl

/-- The changes leave the other members alone. -/
theorem get?_toWire_of_ne (entry : AuditEntry) (withDefaults : Bool) {key : String}
    (hkey : key ≠ "changes") :
    (entry.toWire withDefaults).get? key =
      (Member.putAll entry.attributes withDefaults []).get? key := by
  rw [toWire_eq_putAll]
  split
  · exact WireObject.get?_insert_of_ne hkey _ _
  · rfl

/-- Each attribute of a normal entry is read back. -/
theorem parse_toWire {entry : AuditEntry} (hentry : entry.IsNormal) (withDefaults : Bool) :
    ∀ member ∈ entry.attributes,
      member.field.parse (entry.toWire withDefaults) = member.value := by
  intro member hmem
  have hkeys : (entry.attributes.map (·.field.key)).Nodup := by
    rw [map_key_attributes]
    decide
  have hkey : member.field.key ≠ "changes" := by
    have hlisted := List.mem_map_of_mem (f := (·.field.key)) hmem
    rw [map_key_attributes] at hlisted
    exact fun heq => absurd (heq ▸ hlisted) (by decide)
  rw [ScalarField.parse, get?_toWire_of_ne entry withDefaults hkey]
  exact Member.parse_putAll hkeys (isNormal_attributes hentry) withDefaults (fun _ _ => rfl) hmem

/-- The objects that the changes of an entry are read from: all items that are objects,
none if there is no array. -/
theorem getD_parse_changesField (data : WireObject) :
    @Option.getD (List WireObject) (changesField.parse data) [] =
      match data.get? "changes" with
      | some (.array items) => items.filterMap Json.asObject?
      | _ => [] := by
  change Option.getD (((data.get? "changes").bind Json.asArray?).bind _) [] = _
  cases data.get? "changes" with
  | none => rfl
  | some json =>
      cases json with
      | array items =>
          simp only [Option.bind_some, Json.asArray?]
          cases items.filterMap Json.asObject? <;> rfl
      | null | bool | number | string | object => rfl

/-- What is written of the changes is read again, whether or not an empty list is. -/
theorem getD_parse_toWire (entry : AuditEntry) (withDefaults : Bool) :
    @Option.getD (List WireObject) (changesField.parse (entry.toWire withDefaults)) [] =
      entry.changes.map fun change => change.toWire entry.event.target := by
  have habsent : (Member.putAll entry.attributes withDefaults []).get? "changes" = none :=
    Member.get?_putAll_of_notMem (by rw [map_key_attributes]; decide) _ _
  rw [getD_parse_changesField, toWire_eq_putAll]
  by_cases hwritten : (withDefaults || !entry.changes.isEmpty) = true
  · rw [if_pos hwritten, WireObject.get?_insert_self]
    simp only [changesJson, List.filterMap_map]
    exact congrFun List.filterMap_eq_map entry.changes
  · rw [if_neg hwritten, habsent]
    simp only [Bool.or_eq_true, not_or, Bool.not_eq_true', Bool.not_eq_false] at hwritten
    rw [List.isEmpty_iff.1 hwritten.2, List.map_nil]

/-- A normal entry is read back from its written form, its changes one by one. -/
theorem ofWire_toWire {entry : AuditEntry} (hentry : entry.IsNormal) (withDefaults : Bool) :
    ofWire (entry.toWire withDefaults) =
      { entry with
        changes := entry.changes.filterMap (AuditChange.reread? entry.event.target) } := by
  have hparse := parse_toWire hentry withDefaults
  simp only [attributes, List.forall_mem_cons] at hparse
  obtain ⟨hid, haction, huserId, htargetId, hreason, -⟩ := hparse
  have hevent : eventOfNumber (actionField.parse (entry.toWire withDefaults)) = entry.event := by
    calc eventOfNumber (actionField.parse (entry.toWire withDefaults))
        = eventOfNumber (numberOfEvent entry.event) := congrArg eventOfNumber haction
      _ = entry.event := by rw [eventOfNumber_numberOfEvent, hentry.event]
  have hchanges := getD_parse_toWire entry withDefaults
  rw [ofWire]
  simp only [hevent, hchanges, List.filterMap_map]
  congr 1

/-- Reading what was written keeps the attributes of an entry, and its changes as changes
of the same attributes in the same order. -/
structure Keeps (again entry : AuditEntry) : Prop where
  id : again.id = entry.id
  event : again.event = entry.event
  userId : again.userId = entry.userId
  targetId : again.targetId = entry.targetId
  reason : again.reason = entry.reason
  length : again.changes.length = entry.changes.length
  names : again.changes.map (·.name) = entry.changes.map (·.name)

/-- The objects that an entry reads as changes, in order. -/
def changeObjects (data : WireObject) : List WireObject :=
  match data.get? "changes" with
  | some (.array items) => items.filterMap AuditChange.keyedObject?
  | _ => []

/-- The objects whose key is a text are the changes that are read. -/
theorem map_ofWire?_filterMap (target : Option ChangeTarget) (items : List Json) :
    (items.filterMap AuditChange.keyedObject?).map (AuditChange.ofWire? target) =
      ((items.filterMap Json.asObject?).filterMap (AuditChange.ofWire? target)).map some := by
  induction items with
  | nil => rfl
  | cons item rest ih =>
      cases item with
      | object members =>
          rw [List.filterMap_cons_some (f := Json.asObject?) (b := members) rfl]
          rcases AuditChange.keyedObject?_cases members with ⟨key, hkey, hkeyed⟩ | ⟨hkeyed, hnone⟩
          · obtain ⟨change, hread, -⟩ := AuditChange.exists_ofWire? target hkey
            rw [List.filterMap_cons_some hkeyed, List.filterMap_cons_some hread, List.map_cons,
              List.map_cons, hread, ih]
          · rw [List.filterMap_cons_none hkeyed, List.filterMap_cons_none (hnone target), ih]
      | null | bool | number | string | array => exact ih

theorem map_ofWire?_changeObjects (data : WireObject) :
    (changeObjects data).map (AuditChange.ofWire? (ofWire data).event.target) =
      (ofWire data).changes.map some := by
  change _ = ((@Option.getD (List WireObject) (changesField.parse data) []).filterMap
    (AuditChange.ofWire? (ofWire data).event.target)).map some
  rw [getD_parse_changesField, changeObjects]
  split
  · exact map_ofWire?_filterMap _ _
  · rfl

/-- The changes that were read are all read again, as changes of the same attributes. -/
theorem map_name_filterMap_reread? {target : Option ChangeTarget} {changes : List AuditChange}
    (hread : ∀ change ∈ changes, ∃ data, AuditChange.ofWire? target data = some change) :
    (changes.filterMap (AuditChange.reread? target)).map (·.name) = changes.map (·.name) := by
  induction changes with
  | nil => rfl
  | cons change rest ih =>
      rw [List.forall_mem_cons] at hread
      obtain ⟨⟨data, hdata⟩, hrest⟩ := hread
      obtain ⟨again, hagain, hname⟩ := AuditChange.exists_reread? hdata
      rw [List.filterMap_cons_some hagain, List.map_cons, List.map_cons, hname, ih hrest]

/-- Changes that are read back one by one are read back together. -/
theorem filterMap_reread?_eq {target : Option ChangeTarget} {changes : List AuditChange}
    (hread : ∀ change ∈ changes, change.reread? target = some change) :
    changes.filterMap (AuditChange.reread? target) = changes := by
  induction changes with
  | nil => rfl
  | cons change rest ih =>
      rw [List.forall_mem_cons] at hread
      rw [List.filterMap_cons_some hread.1, ih hread.2]

theorem exists_data_of_mem_changes (data : WireObject) :
    ∀ change ∈ (ofWire data).changes,
      ∃ object, AuditChange.ofWire? (ofWire data).event.target object = some change := by
  intro change hchange
  have hmem := List.mem_map_of_mem (f := some) hchange
  rw [← map_ofWire?_changeObjects, List.mem_map] at hmem
  obtain ⟨object, -, hobject⟩ := hmem
  exact ⟨object, hobject⟩

/-- Entries lose nothing.  The changes of an entry are those of all objects whose key
is a text, read for the kind of object that the action reports of.  The entry that is
read from the written form has the same attributes and changes of the same attributes,
and it is the same entry if each of its changes is read back. -/
theorem ofWire_toWire_ofWire (data : WireObject) :
    (changeObjects data).map (AuditChange.ofWire? (ofWire data).event.target) =
        (ofWire data).changes.map some ∧
      ∀ withDefaults, (ofWire ((ofWire data).toWire withDefaults)).Keeps (ofWire data) ∧
        ((∀ change ∈ (ofWire data).changes,
            AuditChange.ofWire? (ofWire data).event.target
              (change.toWire (ofWire data).event.target) = some change) →
          ofWire ((ofWire data).toWire withDefaults) = ofWire data) := by
  refine ⟨map_ofWire?_changeObjects data, ?_⟩
  intro withDefaults
  rw [ofWire_toWire (isNormal_ofWire data)]
  constructor
  · have hnames := map_name_filterMap_reread? (exists_data_of_mem_changes data)
    have hlength := congrArg List.length hnames
    rw [List.length_map, List.length_map] at hlength
    exact ⟨rfl, rfl, rfl, rfl, rfl, hlength, hnames⟩
  · intro hchanges
    rw [filterMap_reread?_eq hchanges]

/-- An update of a role, among items that are no changes. -/
theorem ofWire_toWire_ofWire_role : ∃ entry,
    ofWire [("action_type", .ofInt 31 (by decide)),
        ("changes", .array [.bool true,
          .object [("key", .string "hoist"), ("new_value", .bool true),
            ("old_value", .bool false)],
          .object [("new_value", .null)]])] = entry ∧
      entry.changes = [⟨"separated", some (.bool false), some (.bool true)⟩] ∧
      (ofWire (entry.toWire true)).Keeps entry ∧ ofWire (entry.toWire false) = entry := by
  refine ⟨_, rfl, by decide +kernel, ((ofWire_toWire_ofWire _).2 true).1, ?_⟩
  exact ((ofWire_toWire_ofWire _).2 false).2 (by decide +kernel)

end AuditEntry

end AuditFields
