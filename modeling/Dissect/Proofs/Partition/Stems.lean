import Dissect.Partition.FileStem
import Dissect.Proofs.Text.Lines
import Mathlib.Data.List.Chain
import Mathlib.Data.List.DropRight

/-!
The stem of a name is made of the stretches of letters and digits in the name, with one underscore
between each two. So stems have a normal form, which does not change when it is made a stem again,
and which is put together from those of the parts of a name.
-/

namespace Dissect.Partition

def IsStem (name : String) : Prop := ∀ c ∈ name.toList, isStemChar c

structure IsWord (cs : List Char) : Prop where
  nonempty : cs ≠ []
  alphanum : ∀ c ∈ cs, c.isAlphanum

/-- The stretches of letters and digits in a text, in order. No stretch can be made longer, and none
is left out. -/
inductive IsStretches : List Char → List (List Char) → Prop
  | nil : IsStretches [] []
  | skip {c : Char} {cs : List Char} {words : List (List Char)} (hc : ¬ c.isAlphanum)
      (rest : IsStretches cs words) : IsStretches (c :: cs) words
  | stretch {word cs : List Char} {words : List (List Char)} (hword : IsWord word)
      (hend : ∀ c, cs.head? = some c → ¬ c.isAlphanum) (rest : IsStretches cs words) :
      IsStretches (word ++ cs) (word :: words)

def HasAlphanum (text : String) : Prop := ∃ c ∈ text.toList, c.isAlphanum

instance (text : String) : Decidable (HasAlphanum text) :=
  decidable_of_iff (text.toList.any Char.isAlphanum = true) List.any_eq_true

/-- The form of stems: safe characters, with underscores only between others and one at a time. -/
structure IsNormalStem (stem : String) : Prop where
  nonempty : stem ≠ ""
  safe : IsStem stem
  leading : ¬ ['_'] <+: stem.toList
  trailing : ¬ ['_'] <:+ stem.toList
  doubled : ¬ ['_', '_'] <:+: stem.toList

theorem IsWord.not_mem {word : List Char} (h : IsWord word) : '_' ∉ word :=
  fun hmem => absurd (h.alphanum '_' hmem) (by decide)

theorem isWord_singleton {c : Char} (hc : c.isAlphanum) : IsWord [c] :=
  ⟨List.cons_ne_nil c [], by simpa using hc⟩

theorem IsWord.cons {c : Char} {word : List Char} (hc : c.isAlphanum) (h : IsWord word) :
    IsWord (c :: word) :=
  ⟨List.cons_ne_nil c word, List.forall_mem_cons.mpr ⟨hc, h.alphanum⟩⟩

theorem IsWord.exists_cons {word : List Char} (h : IsWord word) :
    ∃ c rest, word = c :: rest ∧ c.isAlphanum := by
  obtain ⟨c, rest, rfl⟩ := List.exists_cons_of_ne_nil h.nonempty
  exact ⟨c, rest, rfl, h.alphanum c List.mem_cons_self⟩

theorem exists_isStretches (cs : List Char) : ∃ words, IsStretches cs words := by
  induction cs with
  | nil => exact ⟨[], .nil⟩
  | cons c cs ih =>
      obtain ⟨words, hwords⟩ := ih
      by_cases hc : c.isAlphanum
      · -- the character begins a stretch, or makes the one behind it longer
        cases hwords with
        | nil => exact ⟨_, .stretch (isWord_singleton hc) (by simp) .nil⟩
        | @skip d cs words hd rest =>
            have hend : ∀ e, (d :: cs).head? = some e → ¬ e.isAlphanum := by simpa using hd
            exact ⟨_, .stretch (isWord_singleton hc) hend (.skip hd rest)⟩
        | stretch hword hend rest => exact ⟨_, .stretch (.cons hc hword) hend rest⟩
      · exact ⟨words, .skip hc hwords⟩

theorem takeWhile_isAlphanum {word cs : List Char} (hword : IsWord word)
    (hend : ∀ c, cs.head? = some c → ¬ c.isAlphanum) :
    (word ++ cs).takeWhile (·.isAlphanum) = word := by
  rw [List.takeWhile_append_of_pos hword.alphanum]
  cases cs with
  | nil => exact List.append_nil word
  | cons c cs => rw [List.takeWhile_cons_of_neg (hend c rfl), List.append_nil]

theorem IsStretches.unique {cs : List Char} {words words' : List (List Char)}
    (h : IsStretches cs words) (h' : IsStretches cs words') : words' = words := by
  induction h generalizing words' with
  | nil =>
      generalize hcs : [] = l at h'
      cases h' with
      | nil => rfl
      | skip => cases hcs
      | stretch hword => exact absurd (List.append_eq_nil_iff.mp hcs.symm).1 hword.nonempty
  | @skip c cs words hc rest ih =>
      generalize hcs : c :: cs = l at h'
      cases h' with
      | nil => cases hcs
      | skip hd rest' =>
          obtain ⟨rfl, rfl⟩ := List.cons.inj hcs
          exact ih rest'
      | stretch hword hend rest' =>
          obtain ⟨d, word, rfl, hd⟩ := hword.exists_cons
          obtain ⟨rfl, rfl⟩ := List.cons.inj hcs
          exact absurd hd hc
  | @stretch word cs words hword hend rest ih =>
      generalize hcs : word ++ cs = l at h'
      cases h' with
      | nil => exact absurd (List.append_eq_nil_iff.mp hcs).1 hword.nonempty
      | skip hd rest' =>
          obtain ⟨c, word, rfl, hc⟩ := hword.exists_cons
          obtain ⟨rfl, rfl⟩ := List.cons.inj hcs
          exact absurd hc hd
      | @stretch word' cs' words' hword' hend' rest' =>
          have hsame : word' = word := by
            rw [← takeWhile_isAlphanum hword' hend', ← hcs, takeWhile_isAlphanum hword hend]
          subst hsame
          obtain rfl := List.append_cancel_left hcs
          rw [ih rest']

theorem IsStretches.append_underscore {cs ds : List Char} {words words' : List (List Char)}
    (h : IsStretches cs words) (h' : IsStretches ds words') :
    IsStretches (cs ++ '_' :: ds) (words ++ words') := by
  induction h with
  | nil => exact .skip (by decide) h'
  | skip hc rest ih => exact .skip hc ih
  | @stretch word cs words hword hend rest ih =>
      rw [List.append_assoc]
      refine .stretch hword ?_ ih
      cases cs with
      | nil => simp
      | cons c cs => simpa using hend

theorem IsStretches.eq_nil_iff {cs : List Char} {words : List (List Char)}
    (h : IsStretches cs words) : words = [] ↔ ∀ c ∈ cs, ¬ c.isAlphanum := by
  induction h with
  | nil => simp
  | skip hc rest ih => simp [ih, hc]
  | stretch hword hend rest ih =>
      obtain ⟨c, word, rfl, hc⟩ := hword.exists_cons
      simp [hc]

theorem IsStretches.isWord {cs : List Char} {words : List (List Char)} (h : IsStretches cs words) :
    ∀ word ∈ words, IsWord word := by
  induction h with
  | nil => simp
  | skip hc rest ih => exact ih
  | stretch hword hend rest ih => exact List.forall_mem_cons.mpr ⟨hword, ih⟩

theorem hasAlphanum_iff {text : String} {words : List (List Char)}
    (h : IsStretches text.toList words) : HasAlphanum text ↔ words ≠ [] := by
  rw [Ne, h.eq_nil_iff, HasAlphanum]
  simp

def safe (c : Char) : Char := if isStemChar c then c else '_'

def squeezed (cs : List Char) : List Char := stripUnderscores (collapse (cs.map safe))

theorem fileStem_eq (name : String) :
    fileStem name = if squeezed name.toList = [] then "unnamed"
      else String.ofList (squeezed name.toList) := by
  have hsafe : (name.toList.map fun c => if isStemChar c then c else '_') = name.toList.map safe :=
    rfl
  rw [fileStem, hsafe, ← squeezed]
  cases squeezed name.toList <;> rfl

theorem safe_of_not_isAlphanum {c : Char} (hc : ¬ c.isAlphanum) : safe c = '_' := by
  rw [safe]
  by_cases hstem : isStemChar c
  · rw [if_pos hstem]
    simpa [isStemChar, hc] using hstem
  · rw [if_neg hstem]

theorem isStemChar_of_isAlphanum {c : Char} (hc : c.isAlphanum) : isStemChar c := by
  simp [isStemChar, hc]

theorem map_safe_of_isWord {word : List Char} (h : IsWord word) : word.map safe = word := by
  have hsafe : ∀ c ∈ word, safe c = id c :=
    fun c hc => if_pos (isStemChar_of_isAlphanum (h.alphanum c hc))
  rw [List.map_congr_left hsafe, List.map_id]

theorem collapse_cons (c : Char) (cs : List Char) :
    collapse (c :: cs) = if c == '_' && (collapse cs).head? == some '_' then collapse cs
      else c :: collapse cs := rfl

theorem collapse_append {word : List Char} (h : '_' ∉ word) (cs : List Char) :
    collapse (word ++ cs) = word ++ collapse cs := by
  induction word with
  | nil => rfl
  | cons c word ih =>
      rw [List.mem_cons, not_or] at h
      rw [List.cons_append, collapse_cons, beq_false_of_ne (Ne.symm h.1), ih h.2]
      rfl

theorem collapse_underscore (cs : List Char) :
    collapse ('_' :: cs) = '_' :: (collapse cs).dropWhile (· == '_') := by
  induction cs with
  | nil => rfl
  | cons c cs ih =>
      by_cases hc : c = '_'
      · subst hc
        rw [collapse_cons '_' ('_' :: cs), ih, List.dropWhile_cons_of_pos (by decide),
          List.dropWhile_idempotent]
        rfl
      · have hkept : collapse (c :: cs) = c :: collapse cs := by
          rw [collapse_cons, beq_false_of_ne hc]
          rfl
        have hhead : ((c :: collapse cs).head? == some '_') = false := by simpa using hc
        rw [collapse_cons, hkept, hhead, List.dropWhile_cons_of_neg (by simpa using hc)]
        rfl

theorem dropWhile_of_not_mem {cs : List Char} (h : '_' ∉ cs) : cs.dropWhile (· == '_') = cs := by
  cases cs with
  | nil => rfl
  | cons c cs =>
      rw [List.mem_cons, not_or] at h
      rw [List.dropWhile_cons, beq_false_of_ne (Ne.symm h.1)]
      rfl

theorem stripUnderscores_of_not_mem {cs : List Char} (h : '_' ∉ cs) : stripUnderscores cs = cs := by
  rw [stripUnderscores, dropWhile_of_not_mem h, dropWhile_of_not_mem (by rwa [List.mem_reverse]),
    List.reverse_reverse]

theorem stripUnderscores_underscore (cs : List Char) :
    stripUnderscores ('_' :: cs.dropWhile (· == '_')) = stripUnderscores cs := by
  rw [stripUnderscores, List.dropWhile_cons_of_pos (by decide), List.dropWhile_idempotent,
    stripUnderscores]

theorem stripUnderscores_append {word : List Char} (hword : IsWord word) (cs : List Char) :
    stripUnderscores (word ++ '_' :: cs.dropWhile (· == '_'))
      = if stripUnderscores cs = [] then word else word ++ '_' :: stripUnderscores cs := by
  have hback : '_' ∉ word.reverse := by
    rw [List.mem_reverse]
    exact hword.not_mem
  have hfront : (word ++ '_' :: cs.dropWhile (· == '_')).dropWhile (· == '_')
      = word ++ '_' :: cs.dropWhile (· == '_') := by
    obtain ⟨c, word, rfl, hc⟩ := hword.exists_cons
    refine List.dropWhile_cons_of_neg ?_
    rw [beq_iff_eq]
    rintro rfl
    exact absurd hc (by decide)
  have hrest : (cs.dropWhile (· == '_')).reverse.dropWhile (· == '_')
      = (stripUnderscores cs).reverse := by
    rw [stripUnderscores, List.reverse_reverse]
  rw [stripUnderscores, hfront, List.reverse_append, List.reverse_cons, List.append_assoc,
    List.dropWhile_append, hrest, List.singleton_append, List.isEmpty_reverse]
  by_cases hempty : stripUnderscores cs = []
  · rw [hempty, if_pos rfl, List.isEmpty_nil, if_pos rfl, List.dropWhile_cons_of_pos (by decide),
      dropWhile_of_not_mem hback, List.reverse_reverse]
  · rw [if_neg hempty, if_neg (by rwa [List.isEmpty_iff]), List.reverse_append, List.reverse_cons,
      List.reverse_reverse, List.reverse_reverse, List.append_assoc, List.singleton_append]

theorem squeezed_skip {c : Char} (hc : ¬ c.isAlphanum) (cs : List Char) :
    squeezed (c :: cs) = squeezed cs := by
  rw [squeezed, List.map_cons, safe_of_not_isAlphanum hc, collapse_underscore,
    stripUnderscores_underscore, squeezed]

theorem squeezed_stretch {word cs : List Char} (hword : IsWord word)
    (hend : ∀ c, cs.head? = some c → ¬ c.isAlphanum) :
    squeezed (word ++ cs) = if squeezed cs = [] then word else word ++ '_' :: squeezed cs := by
  rw [squeezed, List.map_append, map_safe_of_isWord hword, collapse_append hword.not_mem]
  cases cs with
  | nil =>
      have hall : stripUnderscores (word ++ []) = word := by
        rw [List.append_nil, stripUnderscores_of_not_mem hword.not_mem]
      exact hall
  | cons c cs =>
      have hc := hend c rfl
      rw [squeezed_skip hc, List.map_cons, safe_of_not_isAlphanum hc, collapse_underscore,
        stripUnderscores_append hword]
      rfl

theorem intercalate_eq_nil_iff {words : List (List Char)} (h : ∀ word ∈ words, IsWord word) :
    List.intercalate ['_'] words = [] ↔ words = [] := by
  cases words with
  | nil => simp
  | cons word words =>
      have hne := (h word List.mem_cons_self).nonempty
      cases words with
      | nil => simpa using hne
      | cons next words => simp [List.intercalate_cons_cons]

/-- What is left of a text are its stretches, joined. -/
theorem squeezed_eq {cs : List Char} {words : List (List Char)} (h : IsStretches cs words) :
    squeezed cs = List.intercalate ['_'] words := by
  induction h with
  | nil => rfl
  | skip hc rest ih => rw [squeezed_skip hc, ih]
  | @stretch word cs words hword hend rest ih =>
      have hnil := intercalate_eq_nil_iff rest.isWord
      rw [squeezed_stretch hword hend, ih]
      by_cases hempty : words = []
      · rw [if_pos (hnil.mpr hempty), hempty, List.intercalate_singleton]
      · rw [if_neg (hnil.not.mpr hempty), List.intercalate_cons_of_ne_nil hempty,
          List.append_assoc, List.singleton_append]

def joined (words : List (List Char)) : String := "_".intercalate (words.map String.ofList)

theorem toList_joined (words : List (List Char)) :
    (joined words).toList = List.intercalate ['_'] words := by
  rw [joined, String.toList_intercalate, List.map_map]
  simp [Function.comp_def]

theorem fileStem_of_isStretches {name : String} {words : List (List Char)}
    (h : IsStretches name.toList words) :
    fileStem name = if words = [] then "unnamed" else joined words := by
  have hnil := intercalate_eq_nil_iff h.isWord
  rw [fileStem_eq, squeezed_eq h]
  by_cases hempty : words = []
  · rw [if_pos hempty, if_pos (hnil.mpr hempty)]
  · rw [if_neg hempty, if_neg (hnil.not.mpr hempty), ← toList_joined, String.ofList_toList]

theorem exists_words_fileStem (name : String) :
    ∃ words, words ≠ [] ∧ (∀ word ∈ words, IsWord word) ∧ fileStem name = joined words := by
  obtain ⟨words, hwords⟩ := exists_isStretches name.toList
  rw [fileStem_of_isStretches hwords]
  by_cases hempty : words = []
  · refine ⟨["unnamed".toList], List.cons_ne_nil _ _, ?_, ?_⟩
    · rw [List.forall_mem_singleton]
      exact ⟨by decide, List.all_eq_true.mp (by decide)⟩
    · rw [if_pos hempty]
      rfl
  · exact ⟨words, hempty, hwords.isWord, if_neg hempty⟩

theorem fileStem_of_alphanum {name : String} (hne : name ≠ "")
    (h : ∀ c ∈ name.toList, c.isAlphanum) : fileStem name = name := by
  have hword : IsWord name.toList := ⟨fun hempty => hne (by simpa using hempty), h⟩
  have hwords : IsStretches (name.toList ++ []) [name.toList] := .stretch hword (by simp) .nil
  rw [List.append_nil] at hwords
  rw [fileStem_of_isStretches hwords, if_neg (List.cons_ne_nil _ _), ← String.toList_inj,
    toList_joined, List.intercalate_singleton]

theorem fileStem_append_underscore (a : String) {b : String} (hb : HasAlphanum b) :
    fileStem (a ++ "_" ++ b)
      = if HasAlphanum a then fileStem a ++ "_" ++ fileStem b else fileStem b := by
  obtain ⟨words, hwords⟩ := exists_isStretches a.toList
  obtain ⟨words', hwords'⟩ := exists_isStretches b.toList
  have hall : IsStretches (a ++ "_" ++ b).toList (words ++ words') := by
    simpa using hwords.append_underscore hwords'
  have hne := (hasAlphanum_iff hwords').mp hb
  rw [fileStem_of_isStretches hall, fileStem_of_isStretches hwords,
    fileStem_of_isStretches hwords', if_neg hne, if_neg (by simp [hne])]
  by_cases hempty : words = []
  · rw [if_neg (by simpa [hasAlphanum_iff hwords] using hempty), hempty, List.nil_append]
  · rw [if_pos ((hasAlphanum_iff hwords).mpr hempty), if_neg hempty, joined, List.map_append,
      String.intercalate_append_of_ne_nil (by simpa using hempty) (by simpa using hne)]
    rfl

theorem isSuffix_fileStem (a : String) {b : String} (hne : b ≠ "")
    (hb : ∀ c ∈ b.toList, c.isAlphanum) : b.toList <:+ (fileStem (a ++ "_" ++ b)).toList := by
  have hword : IsWord b.toList := ⟨fun hempty => hne (by simpa using hempty), hb⟩
  obtain ⟨c, rest, hchars, hc⟩ := hword.exists_cons
  have halnum : HasAlphanum b := ⟨c, by rw [hchars]; exact List.mem_cons_self, hc⟩
  rw [fileStem_append_underscore a halnum, fileStem_of_alphanum hne hb]
  split
  · rw [String.toList_append]
    exact List.suffix_append _ _
  · exact List.suffix_rfl

/-- The stems of names with different endings of one length, which are letters and digits behind an
underscore, are different, whatever stands in front of the endings. -/
theorem fileStem_append_underscore_ne (a a' : String) {b b' : String} (hne : b ≠ b')
    (hempty : b ≠ "") (hlength : b.length = b'.length) (hb : ∀ c ∈ b.toList, c.isAlphanum)
    (hb' : ∀ c ∈ b'.toList, c.isAlphanum) :
    fileStem (a ++ "_" ++ b) ≠ fileStem (a' ++ "_" ++ b') := by
  intro heq
  have hempty' : b' ≠ "" := by
    rintro rfl
    exact hempty (by simpa using hlength)
  have hends := isSuffix_fileStem a hempty hb
  have hends' := isSuffix_fileStem a' hempty' hb'
  rw [← heq] at hends'
  rw [← String.length_toList, ← String.length_toList] at hlength
  have hsame := List.suffix_of_suffix_length_le hends hends' hlength.le
  exact hne (String.toList_inj.mp (hsame.eq_of_length hlength))

section Words

variable {words : List (List Char)} (hwords : ∀ word ∈ words, IsWord word)

include hwords

theorem isStretches_intercalate : IsStretches (List.intercalate ['_'] words) words := by
  induction words with
  | nil => exact .nil
  | cons word words ih =>
      obtain ⟨hword, hrest⟩ := List.forall_mem_cons.mp hwords
      by_cases hempty : words = []
      · have hlast : IsStretches (word ++ []) [word] := .stretch hword (by simp) .nil
        rw [List.append_nil] at hlast
        rwa [hempty, List.intercalate_singleton]
      · rw [List.intercalate_cons_of_ne_nil hempty, List.append_assoc]
        exact .stretch hword (by simp) (.skip (by decide) (ih hrest))

theorem head?_intercalate {c : Char} (h : (List.intercalate ['_'] words).head? = some c) :
    c.isAlphanum := by
  cases words with
  | nil => cases h
  | cons word words =>
      obtain ⟨d, word, rfl, hd⟩ := (hwords _ List.mem_cons_self).exists_cons
      have hhead : d = c := by
        cases words with
        | nil => simpa using h
        | cons next words => simpa [List.intercalate_cons_cons] using h
      exact hhead ▸ hd

theorem getLast?_intercalate {c : Char} (h : (List.intercalate ['_'] words).getLast? = some c) :
    c.isAlphanum := by
  induction words with
  | nil => cases h
  | cons word words ih =>
      obtain ⟨hword, hrest⟩ := List.forall_mem_cons.mp hwords
      by_cases hempty : words = []
      · rw [hempty, List.intercalate_singleton] at h
        exact hword.alphanum c (List.mem_of_getLast? h)
      · rw [List.intercalate_cons_of_ne_nil hempty, List.getLast?_append_of_ne_nil _
          ((intercalate_eq_nil_iff hrest).not.mpr hempty)] at h
        exact ih hrest h

theorem isChain_intercalate :
    (List.intercalate ['_'] words).IsChain fun a b => a ≠ '_' ∨ b ≠ '_' := by
  induction words with
  | nil => exact .nil
  | cons word words ih =>
      obtain ⟨hword, hrest⟩ := List.forall_mem_cons.mp hwords
      have hfirst : ∀ a ∈ word, a ≠ '_' := fun a ha => ne_of_mem_of_not_mem ha hword.not_mem
      have hpairs := List.pairwise_of_forall_mem_list (r := fun a b => a ≠ '_' ∨ b ≠ '_')
        fun a ha _ _ => .inl (hfirst a ha)
      by_cases hempty : words = []
      · rw [hempty, List.intercalate_singleton]
        exact hpairs.isChain
      · rw [List.intercalate_cons_of_ne_nil hempty, List.append_assoc, List.singleton_append,
          List.isChain_append]
        refine ⟨hpairs.isChain, List.isChain_cons.mpr ⟨?_, ih hrest⟩, ?_⟩
        · intro c hc
          refine .inr ?_
          rintro rfl
          exact absurd (head?_intercalate hrest hc) (by decide)
        · exact fun a ha _ _ => .inl (hfirst a (List.mem_of_getLast? ha))

end Words

theorem isStem_fileStem (name : String) : IsStem (fileStem name) := by
  obtain ⟨words, -, hwords, hstem⟩ := exists_words_fileStem name
  rw [IsStem, hstem, joined]
  refine Text.forall_mem_intercalate (List.all_eq_true.mp (by decide)) ?_
  rw [List.forall_mem_map]
  intro word hword c hc
  rw [String.toList_ofList] at hc
  exact isStemChar_of_isAlphanum ((hwords word hword).alphanum c hc)

theorem isNormalStem_fileStem (name : String) : IsNormalStem (fileStem name) := by
  obtain ⟨words, hne, hwords, hstem⟩ := exists_words_fileStem name
  have hchars : (fileStem name).toList = List.intercalate ['_'] words := by
    rw [hstem, toList_joined]
  refine ⟨?_, isStem_fileStem name, ?_, ?_, ?_⟩
  · intro hempty
    rw [hempty, String.toList_empty, eq_comm, intercalate_eq_nil_iff hwords] at hchars
    exact hne hchars
  · rw [hchars]
    rintro ⟨rest, hrest⟩
    exact absurd (head?_intercalate (c := '_') hwords (by rw [← hrest]; rfl)) (by decide)
  · rw [hchars]
    rintro ⟨front, hfront⟩
    exact absurd (getLast?_intercalate (c := '_') hwords (by simp [← hfront])) (by decide)
  · rw [hchars]
    intro hdoubled
    have hchain := List.IsChain.infix (isChain_intercalate hwords) hdoubled
    simp at hchain

theorem fileStem_fileStem (name : String) : fileStem (fileStem name) = fileStem name := by
  obtain ⟨words, hne, hwords, hstem⟩ := exists_words_fileStem name
  have hsame : IsStretches (joined words).toList words := by
    rw [toList_joined]
    exact isStretches_intercalate hwords
  rw [hstem, fileStem_of_isStretches hsame, if_neg hne]

/-- A stem is made of the stretches of its name, of which there is one list, or is `unnamed` where
there are none. It is in normal form and its own stem, and underscores between names are kept. -/
theorem fileStem_isNormalForm (name : String) :
    (∃ words, IsStretches name.toList words ∧
      (∀ words', IsStretches name.toList words' → words' = words) ∧
      fileStem name
        = if words = [] then "unnamed" else "_".intercalate (words.map String.ofList)) ∧
    IsNormalStem (fileStem name) ∧ fileStem (fileStem name) = fileStem name ∧
    ∀ other, HasAlphanum name → HasAlphanum other →
      fileStem (name ++ "_" ++ other) = fileStem name ++ "_" ++ fileStem other := by
  obtain ⟨words, hwords⟩ := exists_isStretches name.toList
  refine ⟨⟨words, hwords, fun _ h => hwords.unique h, fileStem_of_isStretches hwords⟩,
    isNormalStem_fileStem name, fileStem_fileStem name, ?_⟩
  intro other hname hother
  rw [fileStem_append_underscore name hother, if_pos hname]

theorem fileStem_isNormalForm_accented :
    HasAlphanum "$a--é9_" ∧ HasAlphanum "b$" ∧
      (∃ words, IsStretches "$a--é9_".toList words ∧
        (∀ words', IsStretches "$a--é9_".toList words' → words' = words) ∧
        "a_9" = if words = [] then "unnamed" else "_".intercalate (words.map String.ofList)) ∧
      IsNormalStem "a_9" ∧ fileStem "a_9" = "a_9" ∧
      fileStem ("$a--é9_" ++ "_" ++ "b$") = "a_9" ++ "_" ++ "b" := by
  have hname : HasAlphanum "$a--é9_" := by decide
  have hother : HasAlphanum "b$" := by decide
  have hstem : fileStem "$a--é9_" = "a_9" := by decide
  have hstem' : fileStem "b$" = "b" := by decide
  obtain ⟨hwords, hnormal, hagain, happend⟩ := fileStem_isNormalForm "$a--é9_"
  have hboth := happend "b$" hname hother
  rw [hstem'] at hboth
  rw [hstem] at hwords hnormal hagain hboth
  exact ⟨hname, hother, hwords, hnormal, hagain, hboth⟩

end Dissect.Partition
