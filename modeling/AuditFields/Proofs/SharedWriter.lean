/-
The writer that all entries share.  It knows a change value only, not the attribute
that the value is of, and still writes what the attribute's own codec writes.  An unset
side it writes by the table of attributes, which takes empty lists for unset ones just
where the codecs do.
-/
import AuditFields.Proofs.TableConformance

namespace AuditFields

/-- Wherever the table admits lists, it takes empty ones for unset ones. -/
theorem AttributeRule.empties_of_admits {name : String} {rule : AttributeRule}
    (hrule : find? name = some rule) {domain : ValueDomain} (hadmits : rule.admits domain = true)
    (hlist : domain.isSequence = true) : rule.empties = .unset := by
  have htable : ∀ rule ∈ table, ∀ domain ∈ rule.domains,
      domain.isSequence = true → rule.empties = .unset := by decide +kernel
  exact htable rule (List.mem_of_find?_eq_some hrule) domain (List.contains_iff_mem.1 hadmits) hlist

namespace Codec

theorem toChange_eq_none_iff {codec : Codec} (hlist : codec.domain.isSequence = true)
    {value : codec.Value} : codec.toChange value = none ↔ value = codec.decode none := by
  cases codec with
  | scalar codec => cases codec <;> contradiction
  | stringSet => contradiction
  | idArray | stringArray | objectArray | nestedArray => exact Option.map_eq_none_iff

theorem matchesWire_emptyArray {codec : Codec} (hlist : codec.domain.isSequence = true) :
    codec.matchesWire (.array []) = true := by
  cases codec with
  | scalar codec => cases codec <;> contradiction
  | stringSet => contradiction
  | idArray | stringArray | objectArray | nestedArray => rfl

/-- An empty array is read as no list, or as one without items. -/
theorem isEmpty_of_emptyArray {codec : Codec} (hlist : codec.domain.isSequence = true)
    {change : ChangeValue}
    (hchange : codec.toChange (codec.decode (some (.array []))) = some change) :
    change.isEmpty = true := by
  cases codec with
  | scalar codec => cases codec <;> contradiction
  | stringSet => contradiction
  | stringArray empties =>
      cases empties with
      | keep => rw [← Option.some.inj hchange]; rfl
      | unset => contradiction
  | idArray | objectArray | nestedArray => contradiction

end Codec

namespace Resolved

variable {resolved : Resolved}

theorem put_none_of_isSequence (hlist : resolved.entry.domain.isSequence = true) :
    resolved.put none = resolved.empties.unsetList :=
  if_pos hlist

theorem put_none_of_not_isSequence (hlist : resolved.entry.domain.isSequence ≠ true) :
    resolved.put none = .null :=
  if_neg hlist

/-- An unset side is read as unset again, as null or as an empty list. -/
theorem get_put_none
    (hdomain : resolved.entry.converter.field.codec.domain = resolved.entry.domain) :
    resolved.get (some (resolved.put none)) = none := by
  have hnull : resolved.get (some .null) = none := EmptyRule.normalize_none _ _
  by_cases hlist : resolved.entry.domain.isSequence = true
  · rw [put_none_of_isSequence hlist]
    cases hempties : resolved.empties with
    | keep => exact hnull
    | unset =>
        rw [← hdomain] at hlist
        rw [Option.eq_none_iff_forall_ne_some]
        intro change hget
        obtain ⟨hread, hkept⟩ := get_eq_some_iff.1 hget
        rw [EmptyRule.unsetList,
          Field.parseChange_of_matchesWire _ (Codec.matchesWire_emptyArray hlist)] at hread
        have hempty := Codec.isEmpty_of_emptyArray hlist hread
        rw [hkept hempties] at hempty
        contradiction
  · rw [put_none_of_not_isSequence hlist]
    exact hnull

/-- The writer agrees with the codec of the attribute, on values and on unset sides. -/
structure WritesAsCodec (resolved : Resolved) : Prop where
  set : ∀ value change, resolved.entry.converter.field.codec.toChange value = some change →
    resolved.put (some change) = resolved.entry.converter.field.codec.encode value
  unset : resolved.get (some (resolved.put none)) = none
  unset_list : resolved.entry.domain.isSequence = true →
    resolved.entry.converter.field.codec.toChange
        (resolved.entry.converter.field.codec.decode none) = none ∧
      ∀ value, resolved.entry.converter.field.codec.toChange value = none →
        resolved.put none = resolved.entry.converter.field.codec.encode value

end Resolved

namespace ChangeTarget

variable {target : ChangeTarget} {resolved : Resolved}

/-- Every list that a target declares has a codec that writes an unset one as an empty
array. -/
theorem encode_unset_of_mem_entries (target : ChangeTarget) :
    ∀ entry ∈ target.entries, entry.domain.isSequence = true →
      entry.converter.field.codec.encode (entry.converter.field.codec.decode none) =
        .array [] := by
  cases target <;> decide

theorem writesAsCodec_of_resolveName {name : String}
    (hname : target.resolveName name = some resolved) : resolved.WritesAsCodec := by
  have hdomain := domain_of_resolveName hname
  refine ⟨fun value change hchange => Codec.toWire_of_toChange hchange,
    Resolved.get_put_none hdomain, ?_⟩
  intro hlist
  have hcodec : resolved.entry.converter.field.codec.domain.isSequence = true := by
    rw [hdomain]
    exact hlist
  refine ⟨(Codec.toChange_eq_none_iff hcodec).2 rfl, ?_⟩
  intro value hvalue
  obtain ⟨rule, hrule, hadmits, hempties⟩ := followsTable_of_resolveName hname
  rw [(Codec.toChange_eq_none_iff hcodec).1 hvalue,
    encode_unset_of_mem_entries target _ (mem_entries_of_resolveName hname) hlist,
    Resolved.put_none_of_isSequence hlist, hempties,
    AttributeRule.empties_of_admits hrule hadmits hlist]
  rfl

/-- The placement of a key does not matter to how its attribute is written. -/
theorem writesAsCodec_of_resolveKey {key : String}
    (hkey : target.resolveKey key = some resolved) : resolved.WritesAsCodec := by
  have hplaced := writesAsCodec_of_resolveName (resolveName_of_resolveKey hkey)
  exact ⟨hplaced.set, hplaced.unset, hplaced.unset_list⟩

/-- The writer that all entries share writes the change value of a value as the codec of
the value does, of whatever codec.  Every attribute that a target leads to writes an
unset side so that it is read as unset, and an unset list as its codec does. -/
theorem shared_writer_agrees :
    (∀ (codec : Codec) (value : codec.Value) (change : ChangeValue),
      codec.toChange value = some change →
        ChangeValue.sideToWire (some change) = change.toWire ∧
          change.toWire = codec.encode value) ∧
      ∀ (target : ChangeTarget) (resolved : Resolved),
        ((∃ key, target.resolveKey key = some resolved) ∨
          ∃ name, target.resolveName name = some resolved) → resolved.WritesAsCodec := by
  constructor
  · intro codec value change hchange
    exact ⟨rfl, Codec.toWire_of_toChange hchange⟩
  · rintro target resolved (⟨key, hkey⟩ | ⟨name, hname⟩)
    · exact writesAsCodec_of_resolveKey hkey
    · exact writesAsCodec_of_resolveName hname

/-- The permissions of a role, which travel as text, and the unset keywords of a rule,
found through the key of those that it gained. -/
theorem shared_writer_agrees_keywords :
    (Codec.flags .permissions).toChange ⟨8⟩ = some (.flags .permissions ⟨8⟩) ∧
      (ChangeValue.flags .permissions ⟨8⟩).toWire = (Codec.flags .permissions).encode ⟨8⟩ ∧
      ChangeTarget.autoModerationRule.resolveKey "$add_keyword_filter" =
        some ⟨.declare "auto moderation rule" Entity.AutoModeration.keywords, .added, .unset⟩ ∧
      Resolved.put ⟨.declare "auto moderation rule" Entity.AutoModeration.keywords, .added, .unset⟩
        none = Entity.AutoModeration.keywords.codec.encode none := by
  have hkeywords : ChangeTarget.autoModerationRule.resolveKey "$add_keyword_filter" =
      some ⟨.declare "auto moderation rule" Entity.AutoModeration.keywords, .added, .unset⟩ := by
    decide +kernel
  refine ⟨rfl, (shared_writer_agrees.1 (.flags .permissions) ⟨8⟩ _ rfl).2, hkeywords, ?_⟩
  have hwrites := shared_writer_agrees.2 .autoModerationRule _ (Or.inl ⟨_, hkeywords⟩)
  exact (hwrites.unset_list rfl).2 none rfl

end ChangeTarget

end AuditFields
