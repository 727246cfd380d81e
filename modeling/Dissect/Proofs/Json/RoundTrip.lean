import Dissect.Proofs.Json.Leaves
import Dissect.Proofs.Text.Lines

namespace Dissect.Json

/-- A value that reads back from its text, inside at most `room` lists and objects: no number has a
fraction or more digits than are read, and no object has two fields of one name. -/
inductive Plain : Nat → Json → Prop
  | null (room : Nat) : Plain room .null
  | bool (room : Nat) (b : Bool) : Plain room (.bool b)
  | int (room : Nat) (n : Int) (h : (Nat.toDigits 10 n.natAbs).length ≤ Decimal.digitLimit) :
      Plain room (.int n)
  | str (room : Nat) (s : String) : Plain room (.str s)
  | arr {room : Nat} {items : List Json} (h : ∀ v ∈ items, Plain room v) :
      Plain (room + 1) (.arr items)
  | obj {room : Nat} {fields : List (String × Json)} (hkeys : (fields.map Prod.fst).Nodup)
      (h : ∀ f ∈ fields, Plain room f.2) : Plain (room + 1) (.obj fields)

theorem skipSpace_cons {c : Char} (cs : List Char) (h : isSpace c = false) :
    skipSpace (c :: cs) = c :: cs :=
  List.dropWhile_cons_of_neg (by simp [h])

theorem skipSpace_breakTo (level : Nat) (cs : List Char) :
    skipSpace (breakTo level ++ cs) = skipSpace cs := by
  refine List.dropWhile_append_of_pos fun c hc => ?_
  rcases List.mem_cons.mp hc with rfl | hc
  · rfl
  · rw [List.eq_of_mem_replicate hc]
    rfl

theorem exists_toString_int (n : Int) :
    ∃ c cs, (toString n).toList = c :: cs ∧ (c.isDigit || c == '-') := by
  obtain ⟨d, ds, hds, hd⟩ := exists_toDigits n.natAbs
  rw [toList_toString_int, hds]
  split
  · exact ⟨d, ds, rfl, by rw [hd, Bool.true_or]⟩
  · exact ⟨'-', d :: ds, rfl, by decide⟩

theorem Plain.exists_cons {room : Nat} {v : Json} (h : Plain room v) (level : Nat) :
    ∃ c cs, indentedAt level v = c :: cs ∧ isSpace c = false ∧ c ≠ ']' ∧ c ≠ '\x7d' := by
  cases h with
  | null => exact ⟨_, _, rfl, by decide⟩
  | bool _ b => cases b <;> exact ⟨_, _, rfl, by decide⟩
  | int _ n =>
      obtain ⟨c, cs, hc, hfirst⟩ := exists_toString_int n
      refine ⟨c, cs, hc, ?_, ?_, ?_⟩
      · rw [isSpace]
        simp only [Bool.or_eq_false_iff, beq_eq_false_iff_ne]
        refine ⟨⟨⟨?_, ?_⟩, ?_⟩, ?_⟩ <;> (rintro rfl; revert hfirst; decide)
      · rintro rfl
        revert hfirst
        decide
      · rintro rfl
        revert hfirst
        decide
  | str _ s => exact ⟨_, _, rfl, by decide⟩
  | @arr _ items h => cases items <;> exact ⟨_, _, rfl, by decide⟩
  | @obj _ fields hkeys h => cases fields <;> exact ⟨_, _, rfl, by decide⟩

theorem Plain.skipSpace_eq {room : Nat} {v : Json} (h : Plain room v) (level : Nat)
    (rest : List Char) :
    skipSpace (indentedAt level v ++ rest) = indentedAt level v ++ rest := by
  obtain ⟨c, cs, hc, hspace, -⟩ := h.exists_cons level
  rw [hc]
  exact skipSpace_cons _ hspace

/-- The text of a value is read as that value, with as many steps as the text is long, where
something stands behind it that ends it. -/
def ReadsBack (room : Nat) (v : Json) : Prop :=
  ∀ level steps rest, Stops rest → (indentedAt level v).length < steps →
    value steps room (indentedAt level v ++ rest) = .ok (v, rest)

theorem stops_comma (cs : List Char) : Stops (',' :: cs) := by
  rintro c ⟨⟩
  exact .inl rfl

theorem stops_breakTo (level : Nat) (cs : List Char) : Stops (breakTo level ++ cs) := by
  rintro c ⟨⟩
  exact .inr rfl

theorem stops_indentedItems (level out : Nat) (vs : List Json) (cs : List Char) :
    Stops (indentedItems level vs ++ (breakTo out ++ cs)) := by
  cases vs with
  | nil => exact stops_breakTo out cs
  | cons v vs => exact stops_comma _

theorem items_indented {room level out : Nat} {v : Json} {vs : List Json}
    (hplain : ∀ w ∈ v :: vs, Plain room w) (hread : ∀ w ∈ v :: vs, ReadsBack room w)
    {steps : Nat}
    (hsteps : (indentedAt level v).length + (indentedItems level vs).length + 1 < steps)
    (found : List Json) (tail : List Char) :
    items steps room found
        (indentedAt level v ++ (indentedItems level vs ++ (breakTo out ++ ']' :: tail)))
      = .ok (.arr (found.reverse ++ v :: vs), tail) := by
  induction vs generalizing v found steps with
  | nil =>
      obtain ⟨steps, rfl⟩ : ∃ n, steps = n + 1 := ⟨steps - 1, by omega⟩
      rw [items, hread v List.mem_cons_self level steps _ (stops_indentedItems _ _ _ _) (by omega)]
      dsimp only
      rw [indentedItems, List.nil_append, skipSpace_breakTo, skipSpace_cons _ (by decide)]
      simp
  | cons w ws ih =>
      obtain ⟨steps, rfl⟩ : ∃ n, steps = n + 1 := ⟨steps - 1, by omega⟩
      rw [items, hread v List.mem_cons_self level steps _ (stops_indentedItems _ _ _ _) (by omega)]
      simp only [indentedItems, List.cons_append, List.append_assoc, List.length_cons,
        List.length_append] at hsteps ⊢
      rw [skipSpace_cons _ (by decide)]
      simp only []
      rw [skipSpace_breakTo, (hplain w (by simp)).skipSpace_eq]
      rw [ih (fun x hx => hplain x (List.mem_cons_of_mem _ hx))
        (fun x hx => hread x (List.mem_cons_of_mem _ hx)) (by omega)]
      simp

theorem setField_of_not_mem {k : String} {v : Json} {fields : List (String × Json)}
    (h : k ∉ fields.map Prod.fst) : setField k v fields = fields ++ [(k, v)] := by
  induction fields with
  | nil => rfl
  | cons f fields ih =>
      obtain ⟨k', old⟩ := f
      simp only [List.map_cons, List.mem_cons, not_or] at h
      rw [setField, if_neg (by simpa using Ne.symm h.1), ih h.2, List.cons_append]

theorem quote_append (k : String) (cs : List Char) :
    quote k ++ cs = '"' :: (k.toList.flatMap escapeChar ++ '"' :: cs) := by
  simp [quote]

theorem members_last {room level : Nat} {v : Json} (hplain : Plain room v)
    (hread : ReadsBack room v) {steps : Nat} (hsteps : (indentedAt level v).length < steps)
    (found : List (String × Json)) (k : String) (out : Nat) (tail : List Char) :
    members (steps + 1) room found
        (quote k ++ ':' :: ' ' :: (indentedAt level v ++ (breakTo out ++ '\x7d' :: tail)))
      = .ok (.obj (setField k v found), tail) := by
  rw [quote_append, members, stringBody_quote]
  dsimp only
  rw [skipSpace_cons _ (by decide)]
  simp only []
  rw [show skipSpace (' ' :: (indentedAt level v ++ (breakTo out ++ '\x7d' :: tail)))
      = indentedAt level v ++ (breakTo out ++ '\x7d' :: tail) from hplain.skipSpace_eq level _,
    hread level steps _ (stops_breakTo _ _) hsteps]
  dsimp only
  rw [skipSpace_breakTo, skipSpace_cons _ (by decide)]
  rfl

theorem members_next {room level : Nat} {v : Json} (hplain : Plain room v)
    (hread : ReadsBack room v) {steps : Nat} (hsteps : (indentedAt level v).length < steps)
    (found : List (String × Json)) (k : String) (tail : List Char) :
    members (steps + 1) room found
        (quote k ++ ':' :: ' ' :: (indentedAt level v ++ ',' :: (breakTo level ++ tail)))
      = members steps room (setField k v found) (skipSpace tail) := by
  rw [quote_append, members, stringBody_quote]
  dsimp only
  rw [skipSpace_cons _ (by decide)]
  simp only []
  rw [show skipSpace (' ' :: (indentedAt level v ++ ',' :: (breakTo level ++ tail)))
      = indentedAt level v ++ ',' :: (breakTo level ++ tail) from hplain.skipSpace_eq level _,
    hread level steps _ (stops_comma _) hsteps]
  dsimp only
  rw [skipSpace_cons _ (by decide)]
  simp only []
  rw [skipSpace_breakTo]

theorem members_indented {room level out : Nat} {k : String} {v : Json}
    {fs : List (String × Json)} (hplain : ∀ f ∈ (k, v) :: fs, Plain room f.2)
    (hread : ∀ f ∈ (k, v) :: fs, ReadsBack room f.2) {found : List (String × Json)}
    (hkeys : ((found ++ (k, v) :: fs).map Prod.fst).Nodup) {steps : Nat}
    (hsteps : (indentedAt level v).length + (indentedFields level fs).length + 1 < steps)
    (tail : List Char) :
    members steps room found (quote k ++ ':' :: ' ' ::
        (indentedAt level v ++ (indentedFields level fs ++ (breakTo out ++ '\x7d' :: tail))))
      = .ok (.obj (found ++ (k, v) :: fs), tail) := by
  induction fs generalizing k v found steps with
  | nil =>
      obtain ⟨steps, rfl⟩ : ∃ n, steps = n + 1 := ⟨steps - 1, by omega⟩
      have hnew : k ∉ found.map Prod.fst := by
        simp [List.nodup_append] at hkeys
        grind
      have hlength : (indentedAt level v).length < steps := by omega
      rw [indentedFields, List.nil_append, members_last (hplain _ List.mem_cons_self)
        (hread _ List.mem_cons_self) hlength, setField_of_not_mem hnew]
  | cons f fs ih =>
      obtain ⟨k', w⟩ := f
      obtain ⟨steps, rfl⟩ : ∃ n, steps = n + 1 := ⟨steps - 1, by omega⟩
      have hnew : k ∉ found.map Prod.fst := by
        simp [List.nodup_append] at hkeys
        grind
      simp only [indentedFields, List.cons_append, List.append_assoc, List.length_cons,
        List.length_append] at hsteps ⊢
      have hlength : (indentedAt level v).length < steps := by omega
      rw [members_next (hplain _ List.mem_cons_self) (hread _ List.mem_cons_self) hlength,
        setField_of_not_mem hnew, quote_append, skipSpace_cons _ (by decide), ← quote_append,
        ih (fun x hx => hplain x (List.mem_cons_of_mem _ hx))
          (fun x hx => hread x (List.mem_cons_of_mem _ hx)) (by simpa using hkeys) (by omega)]
      simp

theorem readsBack_of_scalar {room : Nat} {v : Json} {c : Char} {cs : List Char}
    (htext : ∀ level, indentedAt level v = c :: cs)
    (hscalar : ∀ rest, Stops rest → scalar (c :: cs ++ rest) = .ok (v, rest))
    (hc : c ≠ '"' ∧ c ≠ '[' ∧ c ≠ '\x7b') : ReadsBack room v := by
  intro level steps rest hrest hsteps
  obtain ⟨steps, rfl⟩ : ∃ n, steps = n + 1 := ⟨steps - 1, by omega⟩
  obtain ⟨hquote, hbracket, hbrace⟩ := hc
  rw [htext, value, hscalar rest hrest] <;> simp [hquote, hbracket, hbrace]

theorem Plain.readsBack {room : Nat} {v : Json} (h : Plain room v) : ReadsBack room v := by
  induction h with
  | null room =>
      exact readsBack_of_scalar (fun _ => rfl) (fun rest _ => scalar_null rest) (by decide)
  | bool room b =>
      cases b with
      | true =>
          exact readsBack_of_scalar (fun _ => rfl) (fun rest _ => scalar_true rest) (by decide)
      | false =>
          exact readsBack_of_scalar (fun _ => rfl) (fun rest _ => scalar_false rest) (by decide)
  | int room n h =>
      obtain ⟨c, cs, hc, hfirst⟩ := exists_toString_int n
      refine readsBack_of_scalar (fun _ => hc) (fun rest hrest => ?_) ?_
      · rw [← hc]
        exact scalar_toString h hrest
      · refine ⟨?_, ?_, ?_⟩ <;> (rintro rfl; revert hfirst; decide)
  | str room s =>
      intro level steps rest hrest hsteps
      obtain ⟨steps, rfl⟩ : ∃ n, steps = n + 1 := ⟨steps - 1, by omega⟩
      change value (steps + 1) room (quote s ++ rest) = _
      rw [quote_append, value, stringBody_quote]
  | @arr room items h ih =>
      intro level steps rest hrest hsteps
      obtain ⟨steps, rfl⟩ : ∃ n, steps = n + 1 := ⟨steps - 1, by omega⟩
      cases items with
      | nil =>
        rw [indentedAt, List.cons_append, List.cons_append, value, skipSpace_cons _ (by decide)]
        rfl
      | cons v vs =>
        obtain ⟨c, cs, hc, hspace, hbracket, -⟩ := (h v List.mem_cons_self).exists_cons (level + 1)
        simp only [indentedAt, List.cons_append, List.append_assoc, List.length_cons,
          List.length_append, List.nil_append] at hsteps ⊢
        rw [value, skipSpace_breakTo, (h v List.mem_cons_self).skipSpace_eq]
        split
        · rename_i after hafter
          rw [hc, List.cons_append, List.cons.injEq] at hafter
          exact absurd hafter.1 hbracket
        · rw [items_indented h ih (by omega)]
          rfl
  | @obj room fields hkeys h ih =>
      intro level steps rest hrest hsteps
      obtain ⟨steps, rfl⟩ : ∃ n, steps = n + 1 := ⟨steps - 1, by omega⟩
      cases fields with
      | nil =>
        rw [indentedAt, List.cons_append, List.cons_append, value, skipSpace_cons _ (by decide)]
        rfl
      | cons f fs =>
        obtain ⟨k, v⟩ := f
        simp only [indentedAt, List.cons_append, List.append_assoc, List.length_cons,
          List.length_append, List.nil_append] at hsteps ⊢
        rw [value, skipSpace_breakTo, quote_append, skipSpace_cons _ (by decide)]
        split
        · rename_i after hafter
          cases hafter
        · rw [← quote_append, members_indented h ih (by simpa using hkeys) (by omega)]
          rfl

theorem inked_of_mem_breakTo {level : Nat} {c : Char} (h : c ∈ breakTo level) : Inked c := by
  rcases List.mem_cons.mp h with rfl | h
  · exact .inl rfl
  · rw [List.eq_of_mem_replicate h]
    exact .inr (by decide)

theorem inked_of_mem_indentedItems {level : Nat} {vs : List Json}
    (hitems : ∀ v ∈ vs, ∀ level, ∀ c ∈ indentedAt level v, Inked c) {c : Char}
    (h : c ∈ indentedItems level vs) : Inked c := by
  induction vs with
  | nil => cases h
  | cons v vs ih =>
      simp only [indentedItems, List.cons_append, List.mem_cons, List.mem_append] at h
      rcases h with rfl | (h | h) | h
      · exact .inr (by decide)
      · exact inked_of_mem_breakTo h
      · exact hitems v List.mem_cons_self level c h
      · exact ih (fun w hw => hitems w (List.mem_cons_of_mem v hw)) h

theorem inked_of_mem_indentedFields {level : Nat} {fs : List (String × Json)}
    (hfields : ∀ f ∈ fs, ∀ level, ∀ c ∈ indentedAt level f.2, Inked c) {c : Char}
    (h : c ∈ indentedFields level fs) : Inked c := by
  induction fs with
  | nil => cases h
  | cons f fs ih =>
      simp only [indentedFields, List.cons_append, List.mem_cons, List.mem_append] at h
      rcases h with rfl | ((h | h) | rfl | rfl | h) | h
      · exact .inr (by decide)
      · exact inked_of_mem_breakTo h
      · exact inked_of_mem_quote h
      · exact .inr (by decide)
      · exact .inr (by decide)
      · exact hfields f List.mem_cons_self level c h
      · exact ih (fun g hg => hfields g (List.mem_cons_of_mem f hg)) h

theorem Plain.inked {room : Nat} {v : Json} (h : Plain room v) (level : Nat) :
    ∀ c ∈ indentedAt level v, Inked c := by
  induction h generalizing level with
  | null room => exact fun c hc => inked_of_all rfl hc
  | bool room b =>
      intro c hc
      cases b <;> exact inked_of_all rfl hc
  | int room n => exact fun c hc => inked_of_mem_toString_int hc
  | str room s => exact fun c hc => inked_of_mem_quote hc
  | @arr room items h ih =>
      intro c hc
      cases items with
      | nil => exact inked_of_all rfl hc
      | cons v vs =>
          obtain ⟨hv, hvs⟩ := List.forall_mem_cons.mp ih
          simp only [indentedAt, List.cons_append, List.mem_cons, List.mem_append,
            List.not_mem_nil, or_false] at hc
          rcases hc with rfl | (((hc | hc) | hc) | hc) | rfl
          · exact .inr (by decide)
          · exact inked_of_mem_breakTo hc
          · exact hv (level + 1) c hc
          · exact inked_of_mem_indentedItems (fun w hw level => hvs w hw level) hc
          · exact inked_of_mem_breakTo hc
          · exact .inr (by decide)
  | @obj room fields hkeys h ih =>
      intro c hc
      cases fields with
      | nil => exact inked_of_all rfl hc
      | cons f fs =>
          obtain ⟨hv, hvs⟩ := List.forall_mem_cons.mp ih
          simp only [indentedAt, List.cons_append, List.mem_cons, List.mem_append,
            List.not_mem_nil, or_false] at hc
          rcases hc with rfl | ((((hc | hc) | rfl | rfl | hc) | hc) | hc) | rfl
          · exact .inr (by decide)
          · exact inked_of_mem_breakTo hc
          · exact inked_of_mem_quote hc
          · exact .inr (by decide)
          · exact .inr (by decide)
          · exact hv (level + 1) c hc
          · exact inked_of_mem_indentedFields (fun g hg level => hvs g hg level) hc
          · exact inked_of_mem_breakTo hc
          · exact .inr (by decide)

/-- Reading undoes writing. -/
theorem parse_indented {v : Json} (h : Plain nestingLimit v) : parse v.indented = .ok v := by
  obtain ⟨c, cs, hc, hspace, -⟩ := h.exists_cons 0
  have hread := h.readsBack 0 (2 * (indentedAt 0 v).length + 2) [] (fun _ hd => nomatch hd)
    (by omega)
  rw [List.append_nil] at hread
  have hmark : c ≠ '\uFEFF' := by
    rintro rfl
    have hink := h.inked 0 '\uFEFF' (by rw [hc]; exact List.mem_cons_self)
    exact absurd hink (by unfold Inked; decide)
  have hchars : parseChars (indentedAt 0 v) = .ok v := by
    rw [parseChars, show skipSpace (indentedAt 0 v) = indentedAt 0 v by
      rw [hc]; exact skipSpace_cons _ hspace, hread]
    rfl
  rw [parse, indented, String.toList_ofList]
  split
  · rename_i rest hrest
    rw [hc, List.cons.injEq] at hrest
    exact absurd hrest.1 hmark
  · exact hchars

theorem not_mem_indented {room : Nat} {v : Json} (h : Plain room v) :
    '\r' ∉ v.indented.toList := by
  rw [indented, String.toList_ofList]
  intro hmem
  exact absurd (h.inked 0 '\r' hmem) (by unfold Inked; decide)

theorem read_encode_indented {room : Nat} {v : Json} (h : Plain room v) :
    Text.read (Text.Utf8.encode v.indented) = .ok v.indented := by
  rw [Text.read_encode, Text.unifyBreaks_of_not_mem (not_mem_indented h)]

end Dissect.Json
