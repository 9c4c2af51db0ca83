import RowGuard.Value.Order

/-! Equality and order of values the other way around. Equality is symmetric,
and two values that have an order have the opposite one when they change places,
however deep inside lists and tuples it is decided. A comparison that is an
invalid operation is one the other way around as well. -/

set_option autoImplicit false

namespace RowGuard

/-! ## Numbers and texts -/

theorem compare_swap {α : Type} [Ord α] [Std.OrientedOrd α] (a b : α) :
    compare b a = (compare a b).swap :=
  Std.OrientedOrd.eq_swap

theorem Decimal.magnitudeOrder_swap (a b : Decimal) :
    b.magnitudeOrder a = (a.magnitudeOrder b).swap := by
  simp only [magnitudeOrder, Int.min_comm b.exponent a.exponent,
    compare_swap a.leadingExponent b.leadingExponent]
  cases compare a.leadingExponent b.leadingExponent with
  | eq => exact compare_swap _ _
  | lt | gt => rfl

theorem Decimal.order_swap (a b : Decimal) : b.order a = (a.order b).swap := by
  simp only [order, compare_swap a.signum b.signum]
  cases signs : compare a.signum b.signum with
  | eq =>
      have signs : a.signum = b.signum := Std.LawfulEqOrd.eq_of_compare signs
      simp only [Ordering.swap_eq, ← signs]
      split
      · rfl
      · split
        · exact magnitudeOrder_swap a b
        · exact magnitudeOrder_swap b a
  | lt | gt => rfl

namespace Value

theorem Number.order?_swap (m n : Number) : n.order? m = (m.order? n).map Ordering.swap := by
  cases m with
  | finite a =>
      cases n with
      | finite b => exact congrArg some (a.order_swap b)
      | lowest | highest | undefined => rfl
  | lowest | highest | undefined => cases n <;> rfl

theorem textOrder_swap (as bs : List Char) : textOrder bs as = (textOrder as bs).swap := by
  induction as generalizing bs with
  | nil => cases bs <;> rfl
  | cons a as ih =>
      cases bs with
      | nil => rfl
      | cons b bs =>
          simp only [textOrder, compare_swap a.toNat b.toNat]
          cases compare a.toNat b.toNat with
          | eq => exact ih bs
          | lt | gt => rfl

/-! ## Equality -/

theorem isIdentical_comm (a b : Value) : a.isIdentical b = b.isIdentical a := by
  cases a with
  | undefined m =>
      cases b with
      | undefined n => exact Bool.beq_comm
      | _ => rfl
  | _ => cases b <;> rfl

theorem map_swap_beq_eq (order : Option Ordering) :
    (order.map Ordering.swap == some .eq) = (order == some .eq) := by
  cases order with
  | none => rfl
  | some order => cases order <;> rfl

theorem equalLeaf?_comm (a b : Value) : a.equalLeaf? b = b.equalLeaf? a := by
  simp only [equalLeaf?]
  cases a.number? with
  | some m =>
      cases b.number? with
      | some n => simp only [Number.order?_swap m n, map_swap_beq_eq, Bool.or_comm a.isSignaling]
      | none => rfl
  | none =>
      cases b.number? with
      | some n => rfl
      | none =>
          cases a with
          | text s =>
              cases b with
              | text t => exact congrArg some Bool.beq_comm
              | _ => rfl
          | object i _ _ _ =>
              cases b with
              | object j _ _ _ => exact congrArg some Bool.beq_comm
              | _ => rfl
          | _ => cases b <;> rfl

mutual

theorem equal?_comm (a b : Value) : a.equal? b = b.equal? a := by
  cases a with
  | list as =>
      cases b with
      | list bs =>
          simp only [equal?, sameItems?_comm as bs, Bool.beq_comm (a := as.length)]
      | _ => simp only [equal?, equalLeaf?_comm]
  | tuple as =>
      cases b with
      | tuple bs => exact sameItems?_comm as bs
      | _ => simp only [equal?, equalLeaf?_comm]
  | mapping as =>
      cases b with
      | mapping bs =>
          simp only [equal?, sameEntries?_comm as bs, Bool.beq_comm (a := as.length)]
      | _ => simp only [equal?, equalLeaf?_comm]
  | builtin kind name owner =>
      cases b with
      | builtin other called holder =>
          simp only [equal?, equal?_comm owner holder, isIdentical_comm owner holder,
            Bool.beq_comm (a := kind), Bool.beq_comm (a := name)]
      | _ => simp only [equal?, equalLeaf?_comm]
  | _ => cases b <;> simp only [equal?, equalLeaf?_comm]
termination_by structural a

theorem sameItems?_comm (as bs : List Value) : sameItems? as bs = sameItems? bs as := by
  cases as with
  | nil => cases bs <;> rfl
  | cons a as =>
      cases bs with
      | nil => rfl
      | cons b bs =>
          simp only [sameItems?, isIdentical_comm a b, equal?_comm a b, sameItems?_comm as bs]
termination_by structural as

theorem sameEntries?_comm (as bs : List (String × Value)) :
    sameEntries? as bs = sameEntries? bs as := by
  cases as with
  | nil => cases bs <;> rfl
  | cons a as =>
      cases bs with
      | nil => rfl
      | cons b bs =>
          obtain ⟨k, a⟩ := a
          obtain ⟨l, b⟩ := b
          simp only [sameEntries?, isIdentical_comm a b, equal?_comm a b, sameEntries?_comm as bs,
            bne, Bool.beq_comm (a := k)]
termination_by structural as

end

theorem same?_comm (a b : Value) : a.same? b = b.same? a := by
  simp only [same?, isIdentical_comm a b, equal?_comm a b]

/-! ## Order -/

/-- How two values stand to one another when they change places. -/
def Arrangement.swap : Arrangement → Arrangement
  | .ordered order => .ordered order.swap
  | arrangement => arrangement

theorem orderLeaf_swap (a b : Value) : b.orderLeaf a = (a.orderLeaf b).swap := by
  simp only [orderLeaf]
  cases a.number? with
  | some m =>
      cases b.number? with
      | some n =>
          simp only [Number.order?_swap m n, Bool.or_comm b.isDecimal]
          cases m.order? n with
          | some order => rfl
          | none =>
              simp only [Option.map_none]
              split <;> rfl
      | none => rfl
  | none =>
      cases b.number? with
      | some n => rfl
      | none =>
          cases a with
          | text s =>
              cases b with
              | text t => exact congrArg Arrangement.ordered (textOrder_swap s.toList t.toList)
              | _ => rfl
          | _ => cases b <;> rfl

mutual

theorem order_swap (a b : Value) : b.order a = (a.order b).swap := by
  cases a with
  | list as =>
      cases b with
      | list bs => exact orderItems_swap as bs
      | _ => simp only [order]; exact orderLeaf_swap _ _
  | tuple as =>
      cases b with
      | tuple bs => exact orderItems_swap as bs
      | _ => simp only [order]; exact orderLeaf_swap _ _
  | _ => cases b <;> simp only [order] <;> exact orderLeaf_swap _ _
termination_by structural a

theorem orderItems_swap (as bs : List Value) :
    orderItems bs as = (orderItems as bs).swap := by
  cases as with
  | nil => cases bs <;> rfl
  | cons a as =>
      cases bs with
      | nil => rfl
      | cons b bs =>
          simp only [orderItems, same?_comm b a]
          cases a.same? b with
          | none => rfl
          | some same =>
              cases same with
              | true => exact orderItems_swap as bs
              | false => exact order_swap a b
termination_by structural as

end

end Value

end RowGuard
