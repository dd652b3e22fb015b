import BemNotation.Data.Format
import BemNotation.Toml.Record
import Mathlib.Data.List.Forall2

/-!
The grammar of configuration documents, as far as records need it, and the laws of a format
that keeps to it. A document is a sequence of lines that each say one statement, or nothing.
How texts are spelled is left open in the grammar, so that a law can say it on its own.
-/

namespace BemNotation.Toml

open Data

/-- The number that hexadecimal digits write after those with the value so far. -/
def codePoint? (value : Nat) : List Char → Option Nat
  | [] => some value
  | d :: ds => do codePoint? (16 * value + (← hexDigit? d)) ds

/-- How a character may be spelled between double quotes. -/
inductive CharText (c : Char) : List Char → Prop
  | plain (hquote : c ≠ '"') (hescape : c ≠ '\\') (h : isPlain c = true) : CharText c [c]
  | short {e : Char} (h : escape? e = some (.char c)) : CharText c ['\\', e]
  | digits {e : Char} {ds : List Char} (h : escape? e = some (.digits ds.length))
      (hds : (codePoint? 0 ds).bind charAt? = some c) : CharText c ('\\' :: e :: ds)

/-- Whether the text between double quotes spells a text. -/
def BasicText (s : String) (cs : List Char) : Prop :=
  ∃ parts, List.Forall₂ CharText s.toList parts ∧ cs = '"' :: (parts.flatten ++ ['"'])

def IsBlanks (cs : List Char) : Prop :=
  ∀ c ∈ cs, isBlank c = true

/-- Blanks and line breaks, as they stand inside a list. -/
def IsGap (cs : List Char) : Prop :=
  ∀ c ∈ cs, isBlank c = true ∨ c = '\n'

theorem isBlanks_nil : IsBlanks [] := by
  simp [IsBlanks]

theorem isGap_nil : IsGap [] := by
  simp [IsGap]

section Grammar

variable (Spells : String → List Char → Prop)

/-- What follows the opening bracket of a list: its items with commas between them, maybe one
more comma, and the closing bracket. -/
inductive ItemsText : List String → List Char → Prop
  | nil {gap : List Char} (hgap : IsGap gap) : ItemsText [] (gap ++ [']'])
  | last {s : String} {gap text after : List Char} (hgap : IsGap gap) (htext : Spells s text)
      (hafter : IsGap after) : ItemsText [s] (gap ++ (text ++ (after ++ [']'])))
  | cons {s : String} {ss : List String} {gap text after rest : List Char} (hgap : IsGap gap)
      (htext : Spells s text) (hafter : IsGap after) (h : ItemsText ss rest) :
      ItemsText (s :: ss) (gap ++ (text ++ (after ++ ',' :: rest)))

inductive ValueText : Value → List Char → Prop
  | text {s : String} {cs : List Char} (h : Spells s cs) : ValueText (.text s) cs
  | list {ss : List String} {cs : List Char} (h : ItemsText Spells ss cs) :
      ValueText (.texts ss) ('[' :: cs)

inductive StatementText : Statement → List Char → Prop
  | assignment {name : String} {v : Value} {before after cs : List Char}
      (hname : isBareName name = true) (hbefore : IsBlanks before) (hafter : IsBlanks after)
      (hv : ValueText Spells v cs) :
      StatementText (.assignment ⟨[], name⟩ v) (name.toList ++ (before ++ '=' :: (after ++ cs)))
  | rowHeader {name : String} {before after : List Char} (hname : isBareName name = true)
      (hbefore : IsBlanks before) (hafter : IsBlanks after) :
      StatementText (.rowHeader ⟨[], name⟩)
        ('[' :: '[' :: (before ++ (name.toList ++ (after ++ [']', ']']))))

/-- Lines with the statements they say, and lines that say nothing. -/
inductive DocumentText : List Statement → List Char → Prop
  | nil : DocumentText [] []
  | empty {ss : List Statement} {indent cs : List Char} (hindent : IsBlanks indent)
      (h : DocumentText ss cs) : DocumentText ss (indent ++ '\n' :: cs)
  | line {s : Statement} {ss : List Statement} {indent text trail cs : List Char}
      (hindent : IsBlanks indent) (htext : StatementText Spells s text) (htrail : IsBlanks trail)
      (h : DocumentText ss cs) :
      DocumentText (s :: ss) (indent ++ (text ++ (trail ++ '\n' :: cs)))

end Grammar

section Spelling

variable {Spells Other : String → List Char → Prop} (hspells : ∀ s cs, Spells s cs → Other s cs)

include hspells

theorem ItemsText.mono {ss : List String} {cs : List Char} (h : ItemsText Spells ss cs) :
    ItemsText Other ss cs := by
  induction h with
  | nil hgap => exact .nil hgap
  | last hgap htext hafter => exact .last hgap (hspells _ _ htext) hafter
  | cons hgap htext hafter _ ih => exact .cons hgap (hspells _ _ htext) hafter ih

theorem ValueText.mono {v : Value} {cs : List Char} (h : ValueText Spells v cs) :
    ValueText Other v cs := by
  cases h with
  | text h => exact .text (hspells _ _ h)
  | list h => exact .list (h.mono hspells)

theorem DocumentText.mono {ss : List Statement} {cs : List Char} (h : DocumentText Spells ss cs) :
    DocumentText Other ss cs := by
  induction h with
  | nil => exact .nil
  | empty hindent _ ih => exact .empty hindent ih
  | line hindent htext htrail _ ih =>
    refine .line hindent ?_ htrail ih
    cases htext with
    | assignment hname hbefore hafter hv => exact .assignment hname hbefore hafter (hv.mono hspells)
    | rowHeader hname hbefore hafter => exact .rowHeader hname hbefore hafter

end Spelling

/-- Whether the second value is the first with the entries of its tables in some order. -/
inductive Reordered : Value → Value → Prop
  | same (v : Value) : Reordered v v
  | list {items items' : List Value} (h : List.Forall₂ Reordered items items') :
      Reordered (.list items) (.list items')
  | table {entries entries' : List (String × Value)}
      (h : ∀ name, Option.Rel Reordered (entries.lookup name) (entries'.lookup name)) :
      Reordered (.table entries) (.table entries')

/-- Whether a document is read as the table that its statements define, as far as neither the
convention about records nor the order of entries counts. -/
def ReadsDocuments (format : DocumentFormat) : Prop :=
  ∀ (ss : List Statement) (table : List (String × Value)) (text : String),
    DocumentText BasicText ss text.toList → documentTable? ss = some table →
    ∀ {α : Type} (shape : Shape α) (a : α),
      (∀ convention v, Reordered (.table table) v → shape convention v = some a) →
      format.read shape text = .ok a

/-- Whether every record can be written. -/
def WritesRecords (format : DocumentFormat) : Prop :=
  ∀ entries, isRecord entries = true → ∃ text, format.write (.table entries) = .ok text

/-- Whether a record is written with its plain values first, each on a line of its own, and then
with a header for every table in its lists. -/
def WritesPlainFirst (format : DocumentFormat) (Spells : String → List Char → Prop) : Prop :=
  ∀ entries text, isRecord entries = true → format.write (.table entries) = .ok text →
    DocumentText Spells (recordStatements entries) text.toList

/-- Whether texts are spelled between double quotes only. -/
def SpellsBasic (Spells : String → List Char → Prop) : Prop :=
  ∀ s cs, Spells s cs → BasicText s cs

end BemNotation.Toml
