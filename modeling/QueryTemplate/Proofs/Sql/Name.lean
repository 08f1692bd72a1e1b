import QueryTemplate.Proofs.Sql.Escaped
import QueryTemplate.Template.Render

/-! Names between back-quotes. A reader of names knows no escapes: it takes a doubled back-quote as
one and stops at the first that is alone. A name is escaped before its back-quotes are doubled, so
what the reader finds is the escaped name, and names in a row are told apart whatever they hold. -/

namespace QueryTemplate.Sql

/-- What stands before the back-quote that closes a name, and what follows that back-quote. A
doubled back-quote is one inside. -/
def untilBackquote? : Text → Option (Text × Text)
  | '`' :: '`' :: rest => (untilBackquote? rest).map fun (s, tail) => ('`' :: s, tail)
  | '`' :: rest => some ([], rest)
  | c :: rest => (untilBackquote? rest).map fun (s, tail) => (c :: s, tail)
  | [] => none

/-- A name between back-quotes at the beginning of a text: what it holds, and what follows it. -/
def readName? : Text → Option (Text × Text)
  | '`' :: rest => untilBackquote? rest
  | _ => none

theorem length_lt_of_untilBackquote?_eq_some {t s rest : Text}
    (h : untilBackquote? t = some (s, rest)) : rest.length < t.length := by
  fun_induction untilBackquote? t generalizing s with
  | case1 t ih =>
    obtain ⟨⟨s, tail⟩, hs, heq⟩ := Option.map_eq_some_iff.mp h
    obtain ⟨-, rfl⟩ := Prod.mk.inj heq
    have hlt := ih hs
    simp only [List.length_cons]
    omega
  | case2 t _ =>
    obtain ⟨-, rfl⟩ := Prod.mk.inj (Option.some.inj h)
    exact Nat.lt_succ_self _
  | case3 c t _ _ ih =>
    obtain ⟨⟨s, tail⟩, hs, heq⟩ := Option.map_eq_some_iff.mp h
    obtain ⟨-, rfl⟩ := Prod.mk.inj heq
    exact (ih hs).trans (Nat.lt_succ_self _)
  | case4 => cases h

theorem length_lt_of_readName?_eq_some {t s rest : Text} (h : readName? t = some (s, rest)) :
    rest.length < t.length := by
  unfold readName? at h
  split at h
  · exact (length_lt_of_untilBackquote?_eq_some h).trans (Nat.lt_succ_self _)
  · cases h

/-- Names between back-quotes with a comma and a space between two of them, and nothing else. -/
def readNames? (t : Text) : Option (List Text) :=
  match _h : readName? t with
  | some (name, []) => some [name]
  | some (name, ',' :: ' ' :: rest) => (readNames? rest).map (name :: ·)
  | _ => none
termination_by t.length
decreasing_by
  have hlt := length_lt_of_readName?_eq_some ‹_›
  simp only [List.length_cons] at hlt
  omega

/-- A row of names, which may be empty. -/
def readRow? (t : Text) : Option (List Text) := if t.isEmpty then some [] else readNames? t

/-! ### One name -/

theorem untilBackquote?_backquote {w : Text} (hw : w.head? ≠ some '`') :
    untilBackquote? ('`' :: w) = some ([], w) := by
  cases w with
  | nil => rfl
  | cons c w =>
    rw [untilBackquote?]
    rintro rest hrest
    rw [hrest] at hw
    exact hw rfl

/-- Doubled back-quotes close nothing, whatever stands around them. -/
theorem untilBackquote?_doubled (t : Text) {w : Text} (hw : w.head? ≠ some '`') :
    untilBackquote? (t.flatMap doubleBackquote ++ '`' :: w) = some (t, w) := by
  induction t with
  | nil => exact untilBackquote?_backquote hw
  | cons c t ih =>
    rw [List.flatMap_cons, List.append_assoc]
    by_cases hc : c = '`'
    · subst hc
      rw [doubleBackquote, if_pos rfl, List.cons_append, List.singleton_append, untilBackquote?, ih]
      rfl
    · rw [doubleBackquote, if_neg hc, List.singleton_append, untilBackquote?, ih]
      · rfl
      · exact fun rest hback _ => hc hback
      · exact hc

theorem readName?_quoteName (name : Text) {w : Text} (hw : w.head? ≠ some '`') :
    readName? (quoteName name ++ w) = some (escape name, w) := by
  rw [quoteName, List.append_assoc, List.cons_append, readName?]
  exact untilBackquote?_doubled (escape name) hw

/-! ### Names in a row -/

theorem readNames?_of_last {t name : Text} (h : readName? t = some (name, [])) :
    readNames? t = some [name] := by
  rw [readNames?]
  split <;> simp_all

theorem readNames?_of_more {t name rest : Text}
    (h : readName? t = some (name, ',' :: ' ' :: rest)) :
    readNames? t = (readNames? rest).map (name :: ·) := by
  rw [readNames?]
  split <;> simp_all

theorem readNames?_commaSeparated (name : Text) (names : List Text) :
    readNames? (Value.commaSeparated ((name :: names).map quoteName)) =
      some ((name :: names).map escape) := by
  induction names generalizing name with
  | nil =>
    have hlast := readName?_quoteName name (w := []) (by simp)
    rw [List.append_nil] at hlast
    rw [List.map_singleton, Value.commaSeparated, List.intercalate_singleton]
    exact readNames?_of_last hlast
  | cons next names ih =>
    have hmore := readName?_quoteName name
      (w := ',' :: ' ' :: Value.commaSeparated ((next :: names).map quoteName)) (by simp)
    have hjoined : Value.commaSeparated ((name :: next :: names).map quoteName) =
        quoteName name ++ ',' :: ' ' :: Value.commaSeparated ((next :: names).map quoteName) := by
      rw [List.map_cons, List.map_cons, Value.commaSeparated, List.intercalate_cons_cons,
        List.append_assoc]
      rfl
    rw [hjoined, readNames?_of_more hmore, ih]
    rfl

theorem readRow?_commaSeparated (names : List Text) :
    readRow? (Value.commaSeparated (names.map quoteName)) = some (names.map escape) := by
  cases names with
  | nil => rfl
  | cons name names =>
    have hread := readNames?_commaSeparated name names
    have hne : Value.commaSeparated ((name :: names).map quoteName) ≠ [] := by
      intro hnil
      rw [hnil, readNames?] at hread
      simp [readName?] at hread
    rw [readRow?, if_neg (by simpa using hne), hread]

theorem map_unescape_escape (names : List Text) : (names.map escape).map unescape = names := by
  rw [List.map_map]
  conv_rhs => rw [← List.map_id names]
  apply List.map_congr_left
  intro name _
  exact unescape_escape name

end QueryTemplate.Sql

namespace QueryTemplate.Tag

open Sql

theorem mapM_nameText?_text (names : List Text) :
    (names.map Value.text).mapM nameText? = some (names.map quoteName) := by
  induction names with
  | nil => rfl
  | cons name names ih =>
    rw [List.map_cons, List.mapM_cons, ih]
    rfl

/-- A list of texts is taken as a row of names. -/
theorem render_name_of_items {v : Value} {names : List Text}
    (hv : v.items? = some (names.map .text)) :
    Tag.name.render v = .ok (Value.commaSeparated (names.map quoteName)) := by
  have hrow : renderName v = .ok (Value.commaSeparated (names.map quoteName)) := by
    have hmapM := mapM_nameText?_text names
    cases v with
    | list items | tuple items =>
      obtain rfl := Option.some.inj hv
      simp only [renderName, nameText?, Value.items?, hmapM]
    | _ => cases hv
  cases v with
  | skip => cases hv
  | _ => exact hrow

/-- A name between back-quotes is read up to its end, and nothing is read that was not put there;
the names of a list are read back in their order, so lists with one text have one row of names. -/
theorem names_closed_and_read_back :
    (∀ name w : Text, w.head? ≠ some '`' →
      readName? (quoteName name ++ w) = some (escape name, w) ∧ unescape (escape name) = name) ∧
    (∀ (v : Value) (names : List Text), v.items? = some (names.map .text) →
      ∃ t, Tag.name.render v = .ok t ∧ readRow? t = some (names.map escape) ∧
        (names.map escape).map unescape = names) ∧
    ∀ (v v' : Value) (names names' : List Text) (t : Text), v.items? = some (names.map .text) →
      v'.items? = some (names'.map .text) → Tag.name.render v = .ok t →
        Tag.name.render v' = .ok t → names = names' := by
  refine ⟨?_, ?_, ?_⟩
  · intro name w hw
    exact ⟨readName?_quoteName name hw, unescape_escape name⟩
  · intro v names hv
    exact ⟨_, render_name_of_items hv, readRow?_commaSeparated names, map_unescape_escape names⟩
  · intro v v' names names' t hv hv' ht ht'
    rw [render_name_of_items hv] at ht
    rw [render_name_of_items hv', ← ht] at ht'
    have hrow := congrArg readRow? (Except.ok.inj ht')
    rw [readRow?_commaSeparated, readRow?_commaSeparated] at hrow
    rw [← map_unescape_escape names, ← Option.some.inj hrow, map_unescape_escape]

theorem names_closed_and_read_back_backquotes :
    readName? (quoteName "a`\\`b".toList ++ ", `c`".toList) =
        some ("a`\\\\`b".toList, ", `c`".toList) ∧
      ∃ t, Tag.name.render (.tuple [.text "`, `".toList, .text []]) = .ok t ∧
        readRow? t = some ["`, `".toList, []] := by
  obtain ⟨hone, hrow, -⟩ := names_closed_and_read_back
  obtain ⟨t, ht, hread, -⟩ := hrow (.tuple [.text "`, `".toList, .text []]) ["`, `".toList, []] rfl
  exact ⟨(hone "a`\\`b".toList ", `c`".toList (by decide)).1, t, ht, hread⟩

end QueryTemplate.Tag
