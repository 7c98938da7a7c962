import PerArity.Formatting
import PerArity.Proofs.Fragments
import PerArity.Proofs.RegisteredTargets

/-!
# How one member ends at any split point

A member can be asked for at every pair of integers, also at one that no enumeration lists: either
number may be negative, and more parameters may be given up front than there are. Three ranges are
named one after the other, and only then is a template looked at, so an error in naming hides every
fault of a template.

The first two ranges begin at zero, so they can fail at the capacity only. If they do not, then the
third one ends within the capacity, so it can fail only by beginning below zero, and an empty range
does not even do that.

Which template fails is a matter of plain templates. An extended placeholder may be able to show one
letter and not another (`member_of_spec`).
-/

namespace PerArity

open Parameter (capacity letters)

/-- The index at which naming the parameters of a split point fails. -/
def SplitPoint.unnamed? (p : SplitPoint) : Option Int :=
  if capacity < p.arity ∨ capacity < p.bound then some capacity
  else if p.bound < 0 ∧ p.bound < p.arity then some p.bound
  else none

namespace PartialApplication

/-- The fault that a member fails with when its parameters have names. The template of a remaining
parameter is looked at first, and only if one remains. -/
def memberFault? (p : SplitPoint) (t : Target) : Option Template.Fault :=
  (if p.bound < p.arity then t.callableParamTemplate.fault? else none).or
    t.partialMemberTemplate.fault?

variable {p : SplitPoint} {t : Target}

/-- If the template of a remaining parameter gives no fault, then it is sound or none remains. -/
private theorem remaining_of_sound
    (h : (if p.bound < p.arity then t.callableParamTemplate.fault? else none) = none) :
    p.arity ≤ p.bound ∨ t.callableParamTemplate.fault? = none := by
  split at h
  · exact .inr h
  · exact .inl (by omega)

section

variable [Template.Formatter]

theorem member_of_unnamed {i : Int} (h : p.unnamed? = some i) :
    member p t = .error (.about i (.unsupportedParameter i)) := by
  rw [SplitPoint.unnamed?] at h
  by_cases harity : capacity < p.arity
  · rw [if_pos (.inl harity)] at h
    obtain rfl := Option.some.inj h
    rw [member, Parameter.names_eq_error (Int.le_refl 0) (Int.natCast_nonneg _) harity,
      Error.about_eq Parameter.isPrintable_capacity]
    rfl
  have hall := Parameter.names_eq_ok (Int.le_refl 0) (Int.not_lt.mp harity)
  by_cases hbound : capacity < p.bound
  · rw [if_pos (.inr hbound)] at h
    obtain rfl := Option.some.inj h
    rw [member, hall, Parameter.names_eq_error (Int.le_refl 0) (Int.natCast_nonneg _) hbound,
      Error.about_eq Parameter.isPrintable_capacity]
    rfl
  have hgiven := Parameter.names_eq_ok (Int.le_refl 0) (Int.not_lt.mp hbound)
  rw [if_neg (not_or.mpr ⟨harity, hbound⟩)] at h
  obtain ⟨⟨hneg, hsome⟩, hindex⟩ := Option.ite_none_right_eq_some.mp h
  obtain rfl := Option.some.inj hindex
  rw [member, hall, hgiven, Parameter.names_of_unnamed (fun h ↦ Int.not_le.mpr hneg h.1) hsome]
  rfl

theorem member_of_named (h : p.unnamed? = none) :
    member p t = t.callableParams (letters p.bound p.arity) >>= fun remaining ↦
      (t.partialMemberTemplate.fill
        (.text ∘ values t (letters 0 p.arity) (letters 0 p.bound) remaining)).mapError
          .template := by
  rw [SplitPoint.unnamed?] at h
  split at h
  · cases h
  split at h
  · cases h
  · exact member_eq_of_named (by omega) (by omega) (by omega)

theorem member_of_faulty (ht : t.callableParamTemplate.IsPlain)
    (ht' : t.partialMemberTemplate.IsPlain) {fault : Template.Fault} (h : p.unnamed? = none)
    (hfault : memberFault? p t = some fault) : member p t = .error (.template fault) := by
  rw [member_of_named h]
  obtain hcallable | ⟨hcallable, hmember⟩ := Option.or_eq_some_iff.mp hfault
  · obtain ⟨hsome, hcallable⟩ := Option.ite_none_right_eq_some.mp hcallable
    rw [Target.callableParams_of_faulty ht hcallable (Parameter.letters_ne_nil hsome)]
    rfl
  · obtain ⟨remaining, hremaining⟩ := exists_remaining ht (remaining_of_sound hcallable)
    rw [hremaining]
    exact Template.fill_of_faulty ht' (Template.shown_text _) hmember

theorem exists_member (ht : t.callableParamTemplate.IsPlain) (ht' : t.partialMemberTemplate.IsPlain)
    (h : p.unnamed? = none) (hsound : memberFault? p t = none) :
    ∃ remaining text, t.callableParams (letters p.bound p.arity) = .ok remaining ∧
      t.partialMemberTemplate.fill
        (.text ∘ values t (letters 0 p.arity) (letters 0 p.bound) remaining) = .ok text ∧
      member p t = .ok text := by
  obtain ⟨hcallable, hmember⟩ := Option.or_eq_none_iff.mp hsound
  obtain ⟨remaining, hremaining⟩ := exists_remaining ht (remaining_of_sound hcallable)
  obtain ⟨text, htext⟩ := Template.exists_fill ht'
    (Template.shown_text (values t (letters 0 p.arity) (letters 0 p.bound) remaining)) hmember
  refine ⟨remaining, text, hremaining, mapError_eq_ok_iff.mp htext, ?_⟩
  rw [member_of_named h, hremaining]
  exact htext

/-- **How a member ends at any split point.** If there is a parameter without a name, then the
member fails at its index, which the error names if it can be written. Otherwise, if the templates
are plain, it fails with the fault of the first bad template that is looked at. If there is no such
template either, then the member is its template with the values in place, and what an empty range
would show is empty. -/
theorem member_outcome (p : SplitPoint) (t : Target) (ht : t.callableParamTemplate.IsPlain)
    (ht' : t.partialMemberTemplate.IsPlain) :
    (∀ i, p.unnamed? = some i →
      member p t =
        .error (if Text.IsPrintable i then .unsupportedParameter i else .tooManyDigits)) ∧
    (p.unnamed? = none →
      (∀ fault, memberFault? p t = some fault → member p t = .error (.template fault)) ∧
      (memberFault? p t = none →
        ∃ remaining text, t.callableParams (letters p.bound p.arity) = .ok remaining ∧
          t.partialMemberTemplate.fill
            (.text ∘ values t (letters 0 p.arity) (letters 0 p.bound) remaining) = .ok text ∧
          member p t = .ok text ∧ (p.arity ≤ p.bound → remaining = ""))) ∧
    (p.arity ≤ 0 → letters 0 p.arity = []) ∧ (p.bound ≤ 0 → letters 0 p.bound = []) := by
  refine ⟨fun i ↦ member_of_unnamed, fun hnamed ↦ ⟨fun fault ↦ member_of_faulty ht ht' hnamed,
    fun hsound ↦ ?_⟩, Parameter.letters_eq_nil, Parameter.letters_eq_nil⟩
  obtain ⟨remaining, text, hremaining, htext, hmember⟩ := exists_member ht ht' hnamed hsound
  refine ⟨remaining, text, hremaining, htext, hmember, fun hempty ↦ ?_⟩
  rw [Parameter.letters_eq_nil hempty, Target.callableParams_nil] at hremaining
  exact (Except.ok.inj hremaining).symm

end

attribute [local instance] Template.Formatter.standard

/-- A member with two parameters given up front and one remaining, and two pairs of integers that
are no split points of any arity. -/
theorem member_outcome_of_typescript :
    Target.typescript.callableParamTemplate.IsPlain ∧
      Target.typescript.partialMemberTemplate.IsPlain ∧
      (∃ remaining, Target.typescript.callableParams ["C"] = .ok remaining ∧
        ∃ text, member ⟨3, 2⟩ Target.typescript = .ok text) ∧
      member ⟨27, -5⟩ Target.typescript = .error (.unsupportedParameter 26) ∧
      member ⟨0, -5⟩ Target.typescript = .error (.unsupportedParameter (-5)) := by
  have hsound := Target.sound_typescript
  have ht := hsound.callableParam.plain
  have ht' := hsound.partialMember.plain
  have hfault : memberFault? ⟨3, 2⟩ Target.typescript = none := by
    rw [memberFault?, hsound.callableParam.fault, hsound.partialMember.fault]
    rfl
  obtain ⟨-, hfull, -⟩ := member_outcome ⟨3, 2⟩ Target.typescript ht ht'
  obtain ⟨remaining, text, hremaining, -, hmember, -⟩ := (hfull rfl).2 hfault
  have hlarge := (member_outcome ⟨27, -5⟩ Target.typescript ht ht').1 26 rfl
  have hnegative := (member_outcome ⟨0, -5⟩ Target.typescript ht ht').1 (-5) rfl
  rw [if_pos (Text.isPrintable_of_natAbs_lt (by decide))] at hlarge hnegative
  exact ⟨ht, ht', ⟨remaining, hremaining, text, hmember⟩, hlarge, hnegative⟩

/-- A parameter whose type is laid out by its own name in lower case: for S, which asks for a text,
this can be done, and for A it cannot. -/
theorem member_of_spec :
    let t : Target := { Target.flow with
      callableParamTemplate := ⟨"\x7btype:\x7bvalue\x7d\x7d"⟩ }
    (∃ text, member ⟨19, 18⟩ t = .ok text) ∧
      member ⟨1, 0⟩ t = .error (.template (.unshowable "ValueError"
        "Unknown format code 'a' for object of type 'str'")) := by
  intro t
  have hletter : (member ⟨19, 18⟩ t).isOk = true := by decide +kernel
  exact ⟨exists_of_isOk hletter, by decide +kernel⟩

end PartialApplication

end PerArity
