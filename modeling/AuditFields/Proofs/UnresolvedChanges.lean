/-
Changes that a target does not resolve.  They are kept as they came under the
name of their key.  Writing takes that name for an attribute's, so the change
comes out as it was exactly when no attribute of the target has it.
-/
import AuditFields.Proofs.ChangeReadback

namespace AuditFields

/-- A member that is there and is not null. -/
def WireObject.present? (data : WireObject) (key : String) : Option Json :=
  (data.get? key).filter fun json => json ≠ .null

theorem WireObject.present?_eq {data other : WireObject} {key : String}
    (hget : other.get? key = data.present? key) : other.present? key = data.present? key := by
  rw [present?, hget, present?, Option.filter_filter]
  simp only [Bool.and_self]

namespace AuditChange

variable {target : Option ChangeTarget}

/-- The change of a key that is not resolved. -/
def unconverted (key : String) (data : WireObject) : AuditChange :=
  ⟨key, (data.present? "old_value").map .raw, (data.present? "new_value").map .raw⟩

theorem ofWire?_of_unresolved {data : WireObject} {key : String}
    (hkey : data.get? "key" = some (.string key))
    (hunresolved : (target.bind fun target => target.resolveKey key) = none) :
    ofWire? target data = some (unconverted key data) := by
  simp only [ofWire?, hkey, Option.bind_some, Json.asString?, hunresolved]
  rfl

/-- A change whose name is no attribute of the target is written as it is. -/
theorem toWire_of_resolveName_eq_none {change : AuditChange}
    (hname : (target.bind fun target => target.resolveName change.name) = none) :
    change.toWire target =
      writeSides change.name ChangeValue.sideToWire change.before change.after := by
  cases target with
  | none => rfl
  | some target =>
      have hgroupName : (target.group?.bind fun group => group.resolveName change.name) = none :=
        hname
      simp only [toWire, Option.bind_some]
      cases hgroup : target.group? with
      | none => rfl
      | some group =>
          rw [hgroup, Option.bind_some] at hgroupName
          simp only [hgroupName]

/-- A change of a known attribute is written under a key that the target resolves. -/
theorem exists_resolved_key_of_toWire {target : ChangeTarget} {change : AuditChange}
    {resolved : Resolved} (hname : target.resolveName change.name = some resolved) :
    ∃ key, (change.toWire (some target)).get? "key" = some (.string key) ∧
      target.resolveKey key ≠ none := by
  rcases toWire_cases hname with
    ⟨hkey, hwrite⟩ | ⟨key, value, hkey, -, hwrite⟩ | ⟨key, value, hkey, -, hwrite⟩
  · exact ⟨resolved.entry.key, hwrite ▸ get?_key_writeSides _ _ _ _, by simp [hkey]⟩
  · exact ⟨key, hwrite ▸ get?_key_writeSides _ _ _ _, by simp [hkey]⟩
  · exact ⟨key, hwrite ▸ get?_key_writeSides _ _ _ _, by simp [hkey]⟩

/-- What came in and is not null goes out. -/
theorem toWire_unconverted (data : WireObject) {key : String}
    (hname : (target.bind fun target => target.resolveName key) = none) :
    (unconverted key data).toWire target =
      sidesObject key (data.present? "old_value") (data.present? "new_value") := by
  rw [toWire_of_resolveName_eq_none hname, writeSides_eq]
  simp only [unconverted, Option.map_map]
  congr 1 <;> exact Option.map_id'

/-- Reading what was written gives the same members again. -/
theorem unconverted_sidesObject (key : String) (data : WireObject) :
    unconverted key
        (sidesObject key (data.present? "old_value") (data.present? "new_value")) =
      unconverted key data := by
  obtain ⟨-, hold, hnew⟩ :=
    get?_sidesObject key (data.present? "old_value") (data.present? "new_value")
  rw [unconverted, WireObject.present?_eq hold, WireObject.present?_eq hnew, unconverted]

/-- A change of a key that the target does not resolve is written as the same
members again, and read again as the same change, exactly when the key is not
the name of an attribute of the target either. -/
theorem toWire_unresolved_iff {data : WireObject} {key : String}
    (hkey : data.get? "key" = some (.string key))
    (hunresolved : (target.bind fun target => target.resolveKey key) = none) :
    ∃ change, ofWire? target data = some change ∧
      (change.toWire target =
            sidesObject key (data.present? "old_value") (data.present? "new_value") ∧
          ofWire? target (change.toWire target) = some change ↔
        (target.bind fun target => target.resolveName key) = none) := by
  refine ⟨unconverted key data, ofWire?_of_unresolved hkey hunresolved, ?_, ?_⟩
  · rintro ⟨hwrite, -⟩
    cases target with
    | none => rfl
    | some target =>
        cases hname : target.resolveName key with
        | none => exact hname
        | some resolved =>
            have hattribute : target.resolveName (unconverted key data).name = some resolved :=
              hname
            obtain ⟨written, hwritten, hresolves⟩ := exists_resolved_key_of_toWire hattribute
            rw [hwrite, (get?_sidesObject _ _ _).1] at hwritten
            injection hwritten with hwritten
            injection hwritten with hwritten
            exact absurd (hwritten ▸ hunresolved) hresolves
  · intro hname
    have hwrite := toWire_unconverted data hname
    refine ⟨hwrite, ?_⟩
    rw [hwrite, ofWire?_of_unresolved (get?_sidesObject _ _ _).1 hunresolved,
      unconverted_sidesObject]

/-- A key that a guild does not know passes through, without its null member. -/
theorem toWire_unresolved_iff_brand_new :
    ChangeTarget.guild.resolveKey "brand_new_attribute" = none ∧
      ChangeTarget.guild.resolveName "brand_new_attribute" = none ∧
      ∃ change,
        ofWire? (some .guild) [("key", .string "brand_new_attribute"),
            ("new_value", .array []), ("old_value", .null)] = some change ∧
          change.toWire (some .guild) =
            [("key", .string "brand_new_attribute"), ("new_value", .array [])] := by
  have hkey : ChangeTarget.guild.resolveKey "brand_new_attribute" = none := by decide +kernel
  have hname : ChangeTarget.guild.resolveName "brand_new_attribute" = none := by decide +kernel
  obtain ⟨change, hread, hiff⟩ := @toWire_unresolved_iff (some .guild)
    [("key", .string "brand_new_attribute"), ("new_value", .array []), ("old_value", .null)]
    "brand_new_attribute" rfl hkey
  exact ⟨hkey, hname, change, hread, (hiff.2 hname).1⟩

/-- The avatar of a webhook is reported under another key, but a change that came
under the attribute's own name is written under that key. -/
theorem toWire_unresolved_avatar :
    ChangeTarget.webhook.resolveKey "avatar" = none ∧
      ofWire? (some .webhook) [("key", .string "avatar"), ("new_value", .string "x")] =
        some ⟨"avatar", none, some (.raw (.string "x"))⟩ ∧
      AuditChange.toWire ⟨"avatar", none, some (.raw (.string "x"))⟩ (some .webhook) =
        [("key", .string "avatar_hash"), ("new_value", .string "x")] := by
  decide +kernel

end AuditChange

end AuditFields
