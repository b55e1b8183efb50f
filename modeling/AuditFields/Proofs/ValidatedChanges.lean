/-
Changes made from candidates.  What a validator accepts is recognised again by its
own codec, in whatever form it was given, so a change that was validated on both
sides is read back whole from its written form.
-/
import AuditFields.Proofs.ChangeReadback
import AuditFields.Proofs.TableConformance

namespace AuditFields

namespace Resolved

variable {resolved : Resolved}

/-- A side that was validated is read again from the form in which it is written. -/
theorem readsBack_of_validate (htimestamp : resolved.entry.converter.field.codec ≠ .timestamp)
    {candidate : Candidate} (hbuilt : ∀ kind items, candidate ≠ .domain (.nested kind items))
    {side : Option ChangeValue} (hvalid : resolved.validate candidate = .ok side) :
    resolved.ReadsBack side := by
  cases side with
  | none => exact resolved.readsBack_none
  | some value =>
      obtain ⟨accepted, haccept, hchange, hempty⟩ := validate_eq_ok_some hvalid
      have hinspects := resolved.entry.converter.field.codec.inspects_of_ne_nested hbuilt
      have hnormal := Codec.isNormal_accept htimestamp hinspects haccept
      have hread := Field.parseChange_toWire_of_isNormal hnormal hchange
      exact get_eq_some_iff.2 ⟨hread, hempty⟩

end Resolved

namespace AuditChange

variable {target : ChangeTarget} {resolved : Resolved}

/-- A valid side is unset, or what validation made of the candidate. -/
theorem validateSide_eq_ok {candidate : Candidate} {side : Option ChangeValue}
    (hside : validateSide resolved candidate = .ok side) :
    side = none ∨ resolved.validate candidate = .ok side := by
  unfold validateSide at hside
  split at hside
  · exact Or.inl (Except.ok.inj hside).symm
  · cases hvalid : resolved.validate candidate with
    | error e =>
        rw [hvalid] at hside
        contradiction
    | ok kept =>
        rw [hvalid] at hside
        exact Or.inr (congrArg Except.ok (Except.ok.inj hside))

/-- A change that could be made has the name of its attribute and two valid sides. -/
theorem validated_eq_ok {name : String} {before after : Candidate} {change : AuditChange}
    (hname : target.resolveName name = some resolved)
    (hvalid : validated target name before after = .ok change) :
    change.name = name ∧ validateSide resolved before = .ok change.before ∧
      validateSide resolved after = .ok change.after := by
  simp only [validated, hname] at hvalid
  obtain ⟨earlier, hbefore, hvalid⟩ := exists_of_bind_eq_ok hvalid
  obtain ⟨later, hafter, hvalid⟩ := exists_of_bind_eq_ok hvalid
  rw [← Except.ok.inj hvalid]
  exact ⟨(ChangeTarget.name_eq_of_resolveName hname).1, hbefore, hafter⟩

theorem readsBack_of_validateSide
    (htimestamp : resolved.entry.converter.field.codec ≠ .timestamp) {candidate : Candidate}
    (hbuilt : ∀ kind items, candidate ≠ .domain (.nested kind items))
    {side : Option ChangeValue} (hside : validateSide resolved candidate = .ok side) :
    resolved.ReadsBack side := by
  rcases validateSide_eq_ok hside with rfl | hvalid
  · exact resolved.readsBack_none
  · exact Resolved.readsBack_of_validate htimestamp hbuilt hvalid

/-- Validation keeps nothing as it came. -/
theorem ne_raw_of_validateSide (hconforms : resolved.Conforms) {candidate : Candidate}
    {side : Option ChangeValue} (hside : validateSide resolved candidate = .ok side)
    (json : Json) : side ≠ some (.raw json) := by
  rintro rfl
  rcases validateSide_eq_ok hside with hunset | hvalid
  · contradiction
  · exact hconforms.domain_ne_raw (hconforms.domain_of_validate _ _ hvalid).symm

theorem isRaw_eq_false {change : AuditChange}
    (hbefore : ∀ json, change.before ≠ some (.raw json))
    (hafter : ∀ json, change.after ≠ some (.raw json)) : change.isRaw = false := by
  rw [isRaw, List.any_eq_false]
  intro side hmem
  have hside : ∀ json, side ≠ some (.raw json) := by
    rcases List.mem_cons.1 hmem with rfl | hmem
    · exact hbefore
    · exact List.mem_singleton.1 hmem ▸ hafter
  split
  · exact absurd rfl (hside _)
  · exact Bool.false_ne_true

/-- A change that was validated has the name it was asked for, keeps no side as it
came, and is read again from its written form, whichever of its sides are set and
under whichever key it was written. -/
theorem readback_of_validated {name : String} {before after : Candidate} {change : AuditChange}
    (hname : target.resolveName name = some resolved)
    (htimestamp : resolved.entry.domain ≠ .timestamp)
    (hbefore : ∀ kind items, before ≠ .domain (.nested kind items))
    (hafter : ∀ kind items, after ≠ .domain (.nested kind items))
    (hvalid : validated target name before after = .ok change) :
    change.name = name ∧ change.isRaw = false ∧
      ofWire? (some target) (change.toWire (some target)) = some change := by
  obtain ⟨heq, hearlier, hlater⟩ := validated_eq_ok hname hvalid
  have hconforms := ChangeTarget.conforms_of_resolveName hname
  have hcodec : resolved.entry.converter.field.codec ≠ .timestamp := by
    rw [← ChangeTarget.domain_of_resolveName hname] at htimestamp
    exact fun hcodec => htimestamp (Codec.domain_eq_timestamp_iff.2 hcodec)
  refine ⟨heq, ?_, ?_⟩
  · apply isRaw_eq_false
    · exact ne_raw_of_validateSide hconforms hearlier
    · exact ne_raw_of_validateSide hconforms hlater
  · apply ofWire?_toWire (heq ▸ hname)
    · exact readsBack_of_validateSide hcodec hbefore hearlier
    · exact readsBack_of_validateSide hcodec hafter hlater

/-- A role that a member gained, against an empty list of roles before: the empty
list is unset, and the change of one side is written under the key of added roles. -/
theorem readback_of_validated_roles :
    ChangeTarget.member.resolveName "roles" =
        some ⟨.declare "member" ChangeTarget.memberRoles, .direct, .unset⟩ ∧
      validated .member "roles" (.array [])
          (.array [.domain (.object [("id", .string "5"), ("name", .string "Helper")])]) =
        .ok ⟨"roles", none, some (.nested .role [⟨some ⟨5, by decide⟩, "Helper"⟩])⟩ ∧
      ofWire? (some .member) (AuditChange.toWire
          ⟨"roles", none, some (.nested .role [⟨some ⟨5, by decide⟩, "Helper"⟩])⟩
          (some .member)) =
        some ⟨"roles", none, some (.nested .role [⟨some ⟨5, by decide⟩, "Helper"⟩])⟩ := by
  have hname : ChangeTarget.member.resolveName "roles" =
      some ⟨.declare "member" ChangeTarget.memberRoles, .direct, .unset⟩ := by decide +kernel
  have hvalid : validated .member "roles" (.array [])
      (.array [.domain (.object [("id", .string "5"), ("name", .string "Helper")])]) =
      .ok ⟨"roles", none, some (.nested .role [⟨some ⟨5, by decide⟩, "Helper"⟩])⟩ := by
    simp only [validated, hname]
    rfl
  have hbuilt : ∀ items kind nested, Candidate.array items ≠ .domain (.nested kind nested) := by
    intro items kind nested heq
    contradiction
  have hread := readback_of_validated hname (by decide) (hbuilt _) (hbuilt _) hvalid
  exact ⟨hname, hvalid, hread.2.2⟩

end AuditChange

end AuditFields
