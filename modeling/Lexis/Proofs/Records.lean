/-
# Records lose nothing

A record shows all fields of a token, a place or a diagnostic, one behind the other.  Its
texts are quoted, so a text that looks like a piece of a record is no more than a text, and
every field has an end of its own.  Then the fields can be read off the record from the left
to the right, and what stands behind it is left over (`Location.record_append_inj`,
`Token.record_append_inj`, `Diagnostic.record_append_inj`).

So two values have the same record exactly if they are equal (`record_eq_iff`).
-/

import Lexis.Diagnostic
import Lexis.Proofs.Delimited

namespace Lexis

variable {v w : List Char}

namespace Location

/-- The record of a place, cut where its fields begin and end. -/
theorem toList_record (a : Location) (v : List Char) :
    a.record.toList ++ v = "SourceLocation(".toList ++ ((quoted a.file).toList ++ (", ".toList ++
      ((decimal a.line).toList ++ ',' :: ' ' :: ((decimal a.column).toList ++ ',' :: ' ' ::
        ((decimal a.offset).toList ++ ')' :: v))))) := by
  have hcomma : ", ".toList = [',', ' '] := rfl
  have hclose : ")".toList = [')'] := rfl
  unfold record
  simp only [String.toList_append, List.append_assoc, hcomma, hclose, List.cons_append,
    List.nil_append]

theorem record_append_inj {a b : Location} (h : a.record.toList ++ v = b.record.toList ++ w) :
    a = b ∧ v = w := by
  rw [toList_record, toList_record] at h
  obtain ⟨hfile, h⟩ := quoted_append_inj (List.append_cancel_left h)
  obtain ⟨hline, h⟩ := decimal_append_inj (by decide) (List.append_cancel_left h)
  obtain ⟨hcolumn, h⟩ := decimal_append_inj (by decide) (List.cons.inj h).2
  obtain ⟨hoffset, hvw⟩ := decimal_append_inj (by decide) (List.cons.inj h).2
  cases a
  cases b
  simp only at hfile hline hcolumn hoffset
  subst hfile hline hcolumn hoffset
  exact ⟨rfl, hvw⟩

end Location

theorem Kind.name_append_inj {kind kind' : Kind}
    (h : kind.name.toList ++ ',' :: v = kind'.name.toList ++ ',' :: w) : kind = kind' ∧ v = w := by
  have hcomma (kind : Kind) : ',' ∉ kind.name.toList := by cases kind <;> decide
  obtain ⟨hname, hvw⟩ := append_cons_inj_of_not_mem (hcomma kind) (hcomma kind') h
  exact ⟨name_injective (String.toList_inj.1 hname), hvw⟩

namespace Token

theorem toList_record (t : Token) (v : List Char) :
    t.record.toList ++ v = "Token(".toList ++ (t.kind.name.toList ++ ',' :: ' ' ::
      ((quoted t.lexeme).toList ++ (", ".toList ++ (t.location.record.toList ++ ')' :: v)))) := by
  have hcomma : ", ".toList = [',', ' '] := rfl
  have hclose : ")".toList = [')'] := rfl
  unfold record
  simp only [String.toList_append, List.append_assoc, hcomma, hclose, List.cons_append,
    List.nil_append]

theorem record_append_inj {t u : Token} (h : t.record.toList ++ v = u.record.toList ++ w) :
    t = u ∧ v = w := by
  rw [toList_record, toList_record] at h
  obtain ⟨hkind, h⟩ := Kind.name_append_inj (List.append_cancel_left h)
  obtain ⟨hlexeme, h⟩ := quoted_append_inj (List.cons.inj h).2
  obtain ⟨hlocation, h⟩ := Location.record_append_inj (List.append_cancel_left h)
  have hvw : v = w := (List.cons.inj h).2
  cases t
  cases u
  simp only at hkind hlexeme hlocation
  subst hkind hlexeme hlocation
  exact ⟨rfl, hvw⟩

end Token

namespace Diagnostic

theorem toList_record (d : Diagnostic) (v : List Char) :
    d.record.toList ++ v = "Diagnostic(message=".toList ++ ((quoted d.message).toList ++
      (", location=".toList ++ (d.location.record.toList ++
        (", source_line=".toList ++ ((quoted d.sourceLine).toList ++
          (", pointer=".toList ++ ((quoted d.pointer).toList ++
            (", code=".toList ++ ((quotedOption d.code).toList ++ (")".toList ++ v)))))))))) := by
  unfold record
  simp only [String.toList_append, List.append_assoc]

theorem record_append_inj {d e : Diagnostic} (h : d.record.toList ++ v = e.record.toList ++ w) :
    d = e ∧ v = w := by
  rw [toList_record, toList_record] at h
  obtain ⟨hmessage, h⟩ := quoted_append_inj (List.append_cancel_left h)
  obtain ⟨hlocation, h⟩ := Location.record_append_inj (List.append_cancel_left h)
  obtain ⟨hsourceLine, h⟩ := quoted_append_inj (List.append_cancel_left h)
  obtain ⟨hpointer, h⟩ := quoted_append_inj (List.append_cancel_left h)
  obtain ⟨hcode, h⟩ := quotedOption_append_inj (List.append_cancel_left h)
  have hvw : v = w := List.append_cancel_left h
  cases d
  cases e
  simp only at hmessage hlocation hsourceLine hpointer hcode
  subst hmessage hlocation hsourceLine hpointer hcode
  exact ⟨rfl, hvw⟩

end Diagnostic

/-- **Records lose nothing.**  Two places have the same record exactly if they are equal, and
so it is with tokens and with diagnostics, whatever their texts hold and whatever their
numbers are.  In particular a diagnostic without a code is told from one whose code is the
word that the record has for this. -/
theorem record_eq_iff :
    (∀ a b : Location, a.record = b.record ↔ a = b) ∧
      (∀ t u : Token, t.record = u.record ↔ t = u) ∧
      (∀ d e : Diagnostic, d.record = e.record ↔ d = e) ∧
      ∀ d : Diagnostic, { d with code := none }.record ≠ { d with code := some "None" }.record := by
  refine ⟨fun a b => eq_iff_of_append_inj Location.record_append_inj,
    fun t u => eq_iff_of_append_inj Token.record_append_inj,
    fun d e => eq_iff_of_append_inj Diagnostic.record_append_inj, fun d h => ?_⟩
  have hdiagnostic := (eq_iff_of_append_inj Diagnostic.record_append_inj).1 h
  cases congrArg Diagnostic.code hdiagnostic

end Lexis
