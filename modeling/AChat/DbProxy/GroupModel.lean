import Mathlib.Data.List.Basic

/-!
Owns the permission check of the DB proxy for changing a group.
-/

namespace AChat.DbProxy

def groupTypeNormal : Nat := 1
def groupTypeTmp : Nat := 2
def groupModifyTypeAdd : Nat := 1

/-- `IM::BaseDefine::GroupType_IsValid`. -/
def groupTypeIsValid (groupType : Nat) : Bool :=
  groupType == groupTypeNormal || groupType == groupTypeTmp

/-- A row of `select creator, type from IMGroup`. -/
structure GroupRow where
  creator : Nat
  type : Nat
deriving DecidableEq, Repr

/-- `GroupModel::hasModifyPermission`. `rows` is the result set, or nothing when
there is no connection to the database or no result. -/
def hasModifyPermission (rows : Option (List GroupRow)) (userId modifyType : Nat) : Bool :=
  if userId = 0 then true
  else
    match rows with
    | none => false
    | some rows =>
        rows.any fun row =>
          groupTypeIsValid row.type &&
            if groupTypeTmp = row.type ∧ groupModifyTypeAdd = modifyType then true
            else row.creator == userId

end AChat.DbProxy
