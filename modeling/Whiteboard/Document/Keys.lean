import Std.Data.ExtTreeMap
import Std.Data.ExtTreeSet
import Whiteboard.Message.Basic

/-!
# The order of names

Objects are ordered by their names, code point by code point, and properties by their objects,
since there is only one kind of property. Maps and sets over them list their entries in this
order, and two of them with the same entries are equal.
-/

namespace Whiteboard

open Std

instance : Ord ObjectId := ⟨fun a b => compare a.text b.text⟩

instance : TransOrd ObjectId where
  eq_swap {a b} := @OrientedCmp.eq_swap String compare _ a.text b.text
  isLE_trans {a b c} := @TransCmp.isLE_trans String compare _ a.text b.text c.text

instance : LawfulEqOrd ObjectId where
  compare_self {a} := @ReflCmp.compare_self String compare _ a.text
  eq_of_compare {a b} h := by
    cases a
    cases b
    exact congrArg ObjectId.mk (@LawfulEqCmp.eq_of_compare String compare _ _ _ h)

/-- Properties are compared by object: the kind is always the same. -/
instance : Ord PropKey := ⟨fun a b => compare a.object b.object⟩

instance : TransOrd PropKey where
  eq_swap {a b} := @OrientedCmp.eq_swap ObjectId compare _ a.object b.object
  isLE_trans {a b c} := @TransCmp.isLE_trans ObjectId compare _ a.object b.object c.object

instance : LawfulEqOrd PropKey where
  compare_self {a} := @ReflCmp.compare_self ObjectId compare _ a.object
  eq_of_compare {a b} h := by
    obtain ⟨object, ⟨⟩⟩ := a
    obtain ⟨object', ⟨⟩⟩ := b
    exact congrArg (PropKey.mk · .title) (@LawfulEqCmp.eq_of_compare ObjectId compare _ _ _ h)

/-- A set of objects. -/
abbrev ObjectSet := ExtTreeSet ObjectId

/-- A map from objects. -/
abbrev ObjectMap (β : Type) := ExtTreeMap ObjectId β

/-- A map from properties. -/
abbrev PropMap (β : Type) := ExtTreeMap PropKey β

end Whiteboard
