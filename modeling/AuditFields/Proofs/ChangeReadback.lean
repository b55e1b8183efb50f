/-
Reading back a change that was written.  The written form is read through the
index of wire keys and made through the index of attributes, and a change of one
side may travel under another key than the one it came under.
-/
import AuditFields.Audit.Change
import AuditFields.Proofs.CodecReadback
import AuditFields.Proofs.TargetGroups

namespace AuditFields

namespace Resolved

/-- Sides that are read again from the form in which they are written.  An unset
side is left out. -/
def ReadsBack (resolved : Resolved) (side : Option ChangeValue) : Prop :=
  resolved.get (side.map fun value => resolved.put (some value)) = side

theorem readsBack_none (resolved : Resolved) : resolved.ReadsBack none :=
  EmptyRule.normalize_none resolved.empties ChangeValue.isEmpty

/-- Whatever was on the wire, what was read of it reads back. -/
theorem readsBack_get {resolved : Resolved}
    (htimestamp : resolved.entry.converter.field.codec.domain ≠ .timestamp)
    (hset : resolved.entry.converter.field.codec.domain ≠ .stringSet) (raw : Option Json) :
    resolved.ReadsBack (resolved.get raw) := by
  cases hget : resolved.get raw with
  | none => exact resolved.readsBack_none
  | some value =>
      obtain ⟨hentry, hempty⟩ := (EmptyRule.normalize_eq_some_iff _ _ _ _).1 hget
      have hagain : resolved.entry.get (some value.toWire) = some value :=
        Field.parseChange_toWire htimestamp hset hentry
      exact (EmptyRule.normalize_eq_some_iff _ _ _ _).2 ⟨hagain, hempty⟩

end Resolved

namespace AuditChange

/-- The wire object of a key and of the sides that are set, in the order of the
keys. -/
def sidesObject (key : String) (old new : Option Json) : WireObject :=
  ("key", .string key) ::
    ((new.map fun json => ("new_value", json)).toList ++
      (old.map fun json => ("old_value", json)).toList)

theorem writeSides_eq (key : String) (put : Option ChangeValue → Json)
    (before after : Option ChangeValue) :
    writeSides key put before after =
      sidesObject key (before.map fun value => put (some value))
        (after.map fun value => put (some value)) := by
  cases before <;> cases after <;> rfl

theorem get?_sidesObject (key : String) (old new : Option Json) :
    (sidesObject key old new).get? "key" = some (.string key) ∧
      (sidesObject key old new).get? "old_value" = old ∧
        (sidesObject key old new).get? "new_value" = new := by
  cases old <;> cases new <;> exact ⟨rfl, rfl, rfl⟩

theorem get?_key_writeSides (key : String) (put : Option ChangeValue → Json)
    (before after : Option ChangeValue) :
    (writeSides key put before after).get? "key" = some (.string key) := by
  rw [writeSides_eq, (get?_sidesObject _ _ _).1]

section Targets

variable {target : ChangeTarget} {resolved : Resolved}

/-- A wire object whose key is resolved is read by placement. -/
theorem ofWire?_of_resolveKey {data : WireObject} {key : String}
    (hkey : data.get? "key" = some (.string key))
    (hresolved : target.resolveKey key = some resolved) :
    ofWire? (some target) data = some
      (match resolved.placement with
        | .direct => ⟨resolved.entry.name, resolved.get (data.get? "old_value"),
            resolved.get (data.get? "new_value")⟩
        | .added => ⟨resolved.entry.name, none, resolved.get (data.get? "new_value")⟩
        | .removed => ⟨resolved.entry.name, resolved.get (data.get? "new_value"), none⟩) := by
  simp only [ofWire?, hkey, Option.bind_some, Json.asString?, hresolved]
  cases resolved.placement <;> rfl

/-- What is read of a change that was written under a resolved key. -/
theorem ofWire?_writeSides {key : String} (hkey : target.resolveKey key = some resolved)
    (put : Option ChangeValue → Json) (before after : Option ChangeValue) :
    ofWire? (some target) (writeSides key put before after) = some
      (match resolved.placement with
        | .direct => ⟨resolved.entry.name, resolved.get (before.map fun value => put (some value)),
            resolved.get (after.map fun value => put (some value))⟩
        | .added =>
            ⟨resolved.entry.name, none, resolved.get (after.map fun value => put (some value))⟩
        | .removed =>
            ⟨resolved.entry.name, resolved.get (after.map fun value => put (some value)), none⟩) := by
  obtain ⟨hmember, hold, hnew⟩ := get?_sidesObject key
    (before.map fun value => put (some value)) (after.map fun value => put (some value))
  rw [writeSides_eq, ofWire?_of_resolveKey hmember hkey, hold, hnew]

/-- A change of one side is that of the side, under a key of its placement. -/
theorem aliasSide?_eq_some {change : AuditChange} {group : ConversionGroup} {key : String}
    {value : ChangeValue} (hside : change.aliasSide? group = some (key, value)) :
    (group.aliasKey change.name .added = some key ∧
        change = ⟨change.name, none, some value⟩) ∨
      (group.aliasKey change.name .removed = some key ∧
        change = ⟨change.name, some value, none⟩) := by
  obtain ⟨name, before, after⟩ := change
  cases before with
  | none =>
      cases after with
      | none => contradiction
      | some after =>
          obtain ⟨found, hfound, hpair⟩ := Option.map_eq_some_iff.1 hside
          injection hpair with hkey hvalue
          exact Or.inl ⟨hkey ▸ hfound, hvalue ▸ rfl⟩
  | some before =>
      cases after with
      | none =>
          obtain ⟨found, hfound, hpair⟩ := Option.map_eq_some_iff.1 hside
          injection hpair with hkey hvalue
          exact Or.inr ⟨hkey ▸ hfound, hvalue ▸ rfl⟩
      | some after => contradiction

/-- How a change of a known attribute is written: both sides under the key of the
attribute, or its only side under a key of what was added or removed. -/
theorem toWire_cases {change : AuditChange}
    (hname : target.resolveName change.name = some resolved) :
    (target.resolveKey resolved.entry.key = some resolved ∧
        change.toWire (some target) =
          writeSides resolved.entry.key resolved.put change.before change.after) ∨
      (∃ key value, target.resolveKey key = some (resolved.placedAs .added) ∧
        change = ⟨change.name, none, some value⟩ ∧
          change.toWire (some target) = writeSides key resolved.put none (some value)) ∨
      ∃ key value, target.resolveKey key = some (resolved.placedAs .removed) ∧
        change = ⟨change.name, some value, none⟩ ∧
          change.toWire (some target) = writeSides key resolved.put none (some value) := by
  obtain ⟨group, hgroup, hfound⟩ := Option.bind_eq_some_iff.1 hname
  have hcoherent := ChangeTarget.coherent_of_group? hgroup
  have hresolve : ∀ key, target.resolveKey key = group.resolveKey key := fun key => by
    rw [ChangeTarget.resolveKey, hgroup, Option.bind_some]
  simp only [toWire, Option.bind_some, hgroup, hfound, hresolve]
  cases hside : change.aliasSide? group with
  | none => exact Or.inl ⟨hcoherent.key_of_name hfound, rfl⟩
  | some written =>
      obtain ⟨key, value⟩ := written
      rcases aliasSide?_eq_some hside with ⟨halias, hchange⟩ | ⟨halias, hchange⟩
      · have hkey := hcoherent.resolveKey_of_aliasKey hfound halias
        exact Or.inr (Or.inl ⟨key, value, hkey, hchange, rfl⟩)
      · have hkey := hcoherent.resolveKey_of_aliasKey hfound halias
        exact Or.inr (Or.inr ⟨key, value, hkey, hchange, rfl⟩)

/-- A change of a known attribute whose sides read back is read back whole, under
whichever key it was written. -/
theorem ofWire?_toWire {change : AuditChange}
    (hname : target.resolveName change.name = some resolved)
    (hbefore : resolved.ReadsBack change.before) (hafter : resolved.ReadsBack change.after) :
    ofWire? (some target) (change.toWire (some target)) = some change := by
  obtain ⟨hentry, hdirect⟩ := ChangeTarget.name_eq_of_resolveName hname
  rcases toWire_cases hname with
    ⟨hkey, hwrite⟩ | ⟨key, value, hkey, hchange, hwrite⟩ | ⟨key, value, hkey, hchange, hwrite⟩
  · rw [hwrite, ofWire?_writeSides hkey, hdirect]
    simp only [hentry]
    rw [hbefore, hafter]
  · rw [hchange] at hafter
    have hvalue : resolved.get (some (resolved.put (some value))) = some value := hafter
    calc ofWire? (some target) (change.toWire (some target))
        = some ⟨resolved.entry.name, none, resolved.get (some (resolved.put (some value)))⟩ := by
          rw [hwrite, ofWire?_writeSides hkey]
          rfl
      _ = some change := by rw [hentry, hvalue, ← hchange]
  · rw [hchange] at hbefore
    have hvalue : resolved.get (some (resolved.put (some value))) = some value := hbefore
    calc ofWire? (some target) (change.toWire (some target))
        = some ⟨resolved.entry.name, resolved.get (some (resolved.put (some value))), none⟩ := by
          rw [hwrite, ofWire?_writeSides hkey]
          rfl
      _ = some change := by rw [hentry, hvalue, ← hchange]

/-- A change that was read of a resolved key is read again from its written form:
the same attribute and the same sides. -/
theorem readback_of_resolveKey {data : WireObject} {key : String}
    (hkey : data.get? "key" = some (.string key))
    (hresolved : target.resolveKey key = some resolved)
    (htimestamp : resolved.entry.domain ≠ .timestamp)
    (hset : resolved.entry.domain ≠ .stringSet) :
    ∃ change, ofWire? (some target) data = some change ∧
      ofWire? (some target) (change.toWire (some target)) = some change := by
  rw [← ChangeTarget.domain_of_resolveKey hresolved] at htimestamp hset
  have hname := ChangeTarget.resolveName_of_resolveKey hresolved
  have hget := fun raw => Resolved.readsBack_get htimestamp hset raw
  rw [ofWire?_of_resolveKey hkey hresolved]
  refine ⟨_, rfl, ?_⟩
  -- reading and writing one side do not depend on the placement
  cases resolved.placement with
  | direct => exact ofWire?_toWire hname (hget _) (hget _)
  | added => exact ofWire?_toWire hname resolved.readsBack_none (hget _)
  | removed => exact ofWire?_toWire hname (hget _) resolved.readsBack_none

/-- A role gained by a member, reported under the key of all the roles, is written under
the key of the added ones and read from there again. -/
theorem readback_of_resolveKey_roles :
    ChangeTarget.member.resolveKey "roles" =
        some ⟨.declare "member" ChangeTarget.memberRoles, .direct, .unset⟩ ∧
      ofWire? (some .member) [("key", .string "roles"), ("new_value",
          .array [.object [("id", .string "5"), ("name", .string "Helper")]])] =
        some ⟨"roles", none, some (.nested .role [⟨some ⟨5, by decide⟩, "Helper"⟩])⟩ ∧
      toWire ⟨"roles", none, some (.nested .role [⟨some ⟨5, by decide⟩, "Helper"⟩])⟩
          (some .member) =
        [("key", .string "$add"), ("new_value",
          .array [.object [("id", .string "5"), ("name", .string "Helper")]])] ∧
      ofWire? (some .member) [("key", .string "$add"), ("new_value",
          .array [.object [("id", .string "5"), ("name", .string "Helper")]])] =
        some ⟨"roles", none, some (.nested .role [⟨some ⟨5, by decide⟩, "Helper"⟩])⟩ := by
  have hkey : WireObject.get? "key" [("key", .string "roles"), ("new_value",
      .array [.object [("id", .string "5"), ("name", .string "Helper")]])] =
        some (.string "roles") := rfl
  have hresolved : ChangeTarget.member.resolveKey "roles" =
      some ⟨.declare "member" ChangeTarget.memberRoles, .direct, .unset⟩ := by decide +kernel
  have hread : ofWire? (some .member) [("key", .string "roles"), ("new_value",
      .array [.object [("id", .string "5"), ("name", .string "Helper")]])] =
        some ⟨"roles", none, some (.nested .role [⟨some ⟨5, by decide⟩, "Helper"⟩])⟩ := by
    decide +kernel
  have hwritten : toWire ⟨"roles", none, some (.nested .role [⟨some ⟨5, by decide⟩, "Helper"⟩])⟩
      (some .member) = [("key", .string "$add"), ("new_value",
        .array [.object [("id", .string "5"), ("name", .string "Helper")]])] := by decide +kernel
  obtain ⟨change, hchange, hback⟩ :=
    readback_of_resolveKey hkey hresolved (by decide) (by decide)
  rw [← Option.some.inj (hread.symm.trans hchange), hwritten] at hback
  exact ⟨hresolved, hread, hwritten, hback⟩

end Targets

end AuditChange

end AuditFields
