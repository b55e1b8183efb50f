/-
Sets of texts, such as the tags of a sticker.  The items are kept in ascending
order.
-/
import AuditFields.Ascending

namespace AuditFields

/-- A set of texts. -/
structure TextSet where
  items : List String
  ascending : items.Pairwise (· < ·)
  deriving DecidableEq

namespace TextSet

/-- The set of the items of a list. -/
def ofList (items : List String) : TextSet where
  items := Ascending.ofList items
  ascending := Ascending.pairwise_ofList
    (fun _ _ _ hab hbc => String.lt_trans hab hbc)
    (fun a b hab hne => by
      by_cases hba : b < a
      · exact hba
      · exact absurd (String.le_antisymm (String.not_lt.1 hba) (String.not_lt.1 hab)) hne)
    items

theorem mem_ofList {s : String} (items : List String) :
    s ∈ (ofList items).items ↔ s ∈ items :=
  Ascending.mem_ofList items

/-- The items in order, separated by a comma and a space: the wire form. -/
def joined (set : TextSet) : String :=
  ", ".intercalate set.items

end TextSet

end AuditFields
