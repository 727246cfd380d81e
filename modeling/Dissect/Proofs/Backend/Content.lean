import Dissect.Backend.Response
import Mathlib.Logic.Relation

namespace Dissect.Response

/-- A step into a reply: to a field or an attribute, or to the first item of a list. -/
inductive Part
  | field (key : String)
  | first
deriving DecidableEq, Repr

abbrev Place := List Part

/-- A value stands at a place of a reply. -/
inductive StandsAt : Place → Response → Response → Prop
  | here (r : Response) : StandsAt [] r r
  | mapping {fields : List (String × Response)} {key : String} {v w : Response} {rest : Place}
      (hfield : fields.lookup key = some v) (hrest : StandsAt rest v w) :
      StandsAt (.field key :: rest) (.mapping fields) w
  | record {attributes : List (String × Response)} {key : String} {v w : Response} {rest : Place}
      (hfield : attributes.lookup key = some v) (hrest : StandsAt rest v w) :
      StandsAt (.field key :: rest) (.record attributes) w
  | first {v w : Response} {items : List Response} {rest : Place} (hrest : StandsAt rest v w) :
      StandsAt (.first :: rest) (.list (v :: items)) w

/-- A part of a list has a text: it is one itself, or has one in its field `text`. -/
inductive PartText : Response → String → Prop
  | own (s : String) : PartText (.text s) s
  | field {part : Response} {s : String} (h : StandsAt [.field "text"] part (.text s)) :
      PartText part s

inductive PartTexts : List Response → List String → Prop
  | nil : PartTexts [] []
  | text {part : Response} {s : String} {parts : List Response} {ss : List String}
      (h : PartText part s) (hrest : PartTexts parts ss) : PartTexts (part :: parts) (s :: ss)
  | skip {part : Response} {parts : List Response} {ss : List String}
      (h : ∀ s, ¬ PartText part s) (hrest : PartTexts parts ss) : PartTexts (part :: parts) ss

/-- A value gives a text: it is one itself, or a list in which at least one part has one. -/
inductive GivesText : Response → String → Prop
  | own (s : String) : GivesText (.text s) s
  | parts {parts : List Response} {ss : List String} (h : PartTexts parts ss) (hsome : ss ≠ []) :
      GivesText (.list parts) (String.join ss)

def TextAt (r : Response) (place : Place) (s : String) : Prop :=
  ∃ v, StandsAt place r v ∧ GivesText v s

def places : List Place :=
  [[.field "content"],
    [.field "message", .field "content"],
    [.field "lc_kwargs", .field "content"],
    [.field "data", .field "content"],
    [.field "choices", .first, .field "message", .field "content"],
    [.field "choices", .first, .field "text"]]

/-- The text of a reply: a text itself, else that at the first place with one, else the text for
replies without one. -/
inductive IsContent (r : Response) : String → Prop
  | own {s : String} (h : r = .text s) : IsContent r s
  | place {before after : List Place} {place : Place} {s : String}
      (hplaces : places = before ++ place :: after) (htext : r.TextAt place s)
      (hbefore : ∀ p ∈ before, ∀ s, ¬ r.TextAt p s) : IsContent r s
  | absent (hown : ∀ s, r ≠ .text s) (hnone : ∀ p ∈ places, ∀ s, ¬ r.TextAt p s) :
      IsContent r noTextReply

theorem get?_eq_some_iff {r v : Response} {key : String} :
    r.get? key = some v ↔ StandsAt [.field key] r v := by
  constructor
  · intro h
    cases r with
    | mapping fields => exact .mapping h (.here v)
    | record attributes => exact .record h (.here v)
    | text | list | other => cases h
  · intro h
    cases h with
    | mapping hfield hrest | record hfield hrest =>
        cases hrest
        exact hfield

theorem partText?_eq_some_iff {part : Response} {s : String} :
    part.partText? = some s ↔ PartText part s := by
  constructor
  · intro h
    rw [partText?.eq_def] at h
    split at h
    · cases h
      exact .own s
    · split at h
      · rename_i hget
        cases h
        exact .field (get?_eq_some_iff.mp hget)
      · cases h
  · rintro (_ | h)
    · rfl
    · have hget := get?_eq_some_iff.mpr h
      cases h <;> simp only [partText?, hget]

theorem partTexts_iff {parts : List Response} {ss : List String} :
    PartTexts parts ss ↔ parts.filterMap partText? = ss := by
  constructor
  · intro h
    induction h with
    | nil => rfl
    | text hpart hrest ih => rw [List.filterMap_cons_some (partText?_eq_some_iff.mpr hpart), ih]
    | @skip part _ _ hpart hrest ih =>
        have hnone : part.partText? = none :=
          Option.eq_none_iff_forall_ne_some.mpr fun s hs => hpart s (partText?_eq_some_iff.mp hs)
        rw [List.filterMap_cons_none hnone, ih]
  · rintro rfl
    induction parts with
    | nil => exact .nil
    | cons part parts ih =>
        cases hpart : part.partText? with
        | none =>
            rw [List.filterMap_cons_none hpart]
            refine .skip (fun s hs => ?_) ih
            rw [partText?_eq_some_iff.mpr hs] at hpart
            cases hpart
        | some s =>
            rw [List.filterMap_cons_some hpart]
            exact .text (partText?_eq_some_iff.mp hpart) ih

theorem plainText?_eq_some_iff {v : Response} {s : String} :
    v.plainText? = some s ↔ GivesText v s := by
  constructor
  · intro h
    cases v with
    | text t =>
        cases h
        exact .own s
    | list parts =>
        rw [plainText?] at h
        split at h
        · cases h
        · rename_i hsome
          cases h
          exact .parts (partTexts_iff.mpr rfl) hsome
    | mapping | record | other => cases h
  · rintro (_ | ⟨hparts, hsome⟩)
    · rfl
    · obtain rfl := partTexts_iff.mp hparts
      rw [plainText?]
      split
      · contradiction
      · rfl

def firstItem? : Response → Option Response
  | .list (v :: _) => some v
  | _ => none

def step? : Part → Response → Option Response
  | .field key, r => r.get? key
  | .first, r => r.firstItem?

def textThrough? : Place → Response → Option String
  | [], r => r.plainText?
  | part :: rest, r => (step? part r).bind (textThrough? rest)

theorem standsAt_cons_iff {part : Part} {rest : Place} {r w : Response} :
    StandsAt (part :: rest) r w ↔ ∃ v, step? part r = some v ∧ StandsAt rest v w := by
  constructor
  · intro h
    cases h with
    | mapping hfield hrest | record hfield hrest => exact ⟨_, hfield, hrest⟩
    | first hrest => exact ⟨_, rfl, hrest⟩
  · rintro ⟨v, hstep, hrest⟩
    cases part with
    | field key =>
        cases r with
        | mapping fields => exact .mapping hstep hrest
        | record attributes => exact .record hstep hrest
        | text | list | other => cases hstep
    | first =>
        rw [step?, firstItem?.eq_def] at hstep
        split at hstep
        · cases hstep
          exact .first hrest
        · cases hstep

theorem textThrough?_eq_some_iff {place : Place} {r : Response} {s : String} :
    textThrough? place r = some s ↔ r.TextAt place s := by
  induction place generalizing r with
  | nil =>
      rw [textThrough?, plainText?_eq_some_iff]
      constructor
      · intro h
        exact ⟨r, .here r, h⟩
      · rintro ⟨v, hv, h⟩
        cases hv
        exact h
  | cons part rest ih =>
      rw [textThrough?, Option.bind_eq_some_iff]
      simp only [ih, TextAt, standsAt_cons_iff]
      constructor
      · rintro ⟨v, hstep, w, hw, htext⟩
        exact ⟨w, ⟨v, hstep, hw⟩, htext⟩
      · rintro ⟨w, ⟨v, hstep, hw⟩, htext⟩
        exact ⟨v, hstep, w, hw, htext⟩

theorem firstChoice?_eq (r : Response) :
    r.firstChoice? = (r.get? "choices").bind firstItem? := by
  rw [firstChoice?]
  cases r.get? "choices" with
  | none => rfl
  | some v =>
      cases v with
      | list items => cases items <;> rfl
      | text | mapping | record | other => rfl

theorem content?_eq_findSome? {r : Response} (h : ∀ s, r ≠ .text s) :
    r.content? = places.findSome? (textThrough? · r) := by
  have hcons : ∀ (p : Place) (ps : List Place),
      (p :: ps).findSome? (textThrough? · r)
        = (textThrough? p r).or (ps.findSome? (textThrough? · r)) := by
    intro p ps
    rw [List.findSome?_cons]
    cases textThrough? p r <;> rfl
  rw [content?.eq_def]
  split
  · exact absurd rfl (h _)
  · simp only [places, hcons, List.findSome?_nil, firstChoice?_eq, textThrough?, step?, textAt?,
      Option.bind_assoc, Option.orElse_eq_orElse, Option.orElse_eq_or, Option.or_none]

theorem textThrough?_eq_none_iff {place : Place} {r : Response} :
    textThrough? place r = none ↔ ∀ s, ¬ r.TextAt place s := by
  simp only [Option.eq_none_iff_forall_ne_some, ne_eq, textThrough?_eq_some_iff]

theorem exists_field_of_mem_places {place : Place} (h : place ∈ places) :
    ∃ key rest, place = .field key :: rest := by
  simp only [places, List.mem_cons, List.not_mem_nil, or_false] at h
  rcases h with rfl | rfl | rfl | rfl | rfl | rfl <;> exact ⟨_, _, rfl⟩

theorem ne_text_of_textAt {r : Response} {place : Place} {s : String} (hplace : place ∈ places)
    (h : r.TextAt place s) (t : String) : r ≠ .text t := by
  rintro rfl
  obtain ⟨key, rest, rfl⟩ := exists_field_of_mem_places hplace
  obtain ⟨v, hv, -⟩ := h
  cases hv

theorem isContent_content (r : Response) : r.IsContent r.content := by
  by_cases hown : ∃ s, r = .text s
  · obtain ⟨s, rfl⟩ := hown
    exact .own rfl
  · rw [not_exists] at hown
    rw [content, content?_eq_findSome? hown]
    cases hfirst : places.findSome? (textThrough? · r) with
    | none =>
        rw [List.findSome?_eq_none_iff] at hfirst
        exact .absent hown fun p hp => textThrough?_eq_none_iff.mp (hfirst p hp)
    | some s =>
        obtain ⟨before, p, after, hplaces, htext, hbefore⟩ := List.findSome?_eq_some_iff.mp hfirst
        exact .place hplaces (textThrough?_eq_some_iff.mp htext) fun q hq =>
          textThrough?_eq_none_iff.mp (hbefore q hq)

theorem IsContent.content_eq {r : Response} {s : String} (h : r.IsContent s) : r.content = s := by
  cases h with
  | own h =>
      rw [h]
      rfl
  | @place before after place _ hplaces htext hbefore =>
      have hmem : place ∈ places := by simp [hplaces]
      have hfirst : places.findSome? (textThrough? · r) = some s :=
        List.findSome?_eq_some_iff.mpr ⟨before, place, after, hplaces,
          textThrough?_eq_some_iff.mpr htext,
          fun q hq => textThrough?_eq_none_iff.mpr (hbefore q hq)⟩
      rw [content, content?_eq_findSome? (ne_text_of_textAt hmem htext), hfirst]
      rfl
  | absent hown hnone =>
      have hall : places.findSome? (textThrough? · r) = none :=
        List.findSome?_eq_none_iff.mpr fun p hp => textThrough?_eq_none_iff.mpr (hnone p hp)
      rw [content, content?_eq_findSome? hown, hall]
      rfl

theorem content_eq_iff {r : Response} {s : String} : r.content = s ↔ r.IsContent s := by
  constructor
  · rintro rfl
    exact r.isContent_content
  · exact IsContent.content_eq

/-- Two replies are the same text or none, and have the same texts at the six places. -/
structure Agrees (r r' : Response) : Prop where
  own : ∀ s, r = .text s ↔ r' = .text s
  places : ∀ p ∈ places, ∀ s, r.TextAt p s ↔ r'.TextAt p s

theorem Agrees.isContent {r r' : Response} (h : Agrees r r') {s : String} (hs : r.IsContent s) :
    r'.IsContent s := by
  cases hs with
  | own hown => exact .own ((h.own s).mp hown)
  | @place before after place _ hplaces htext hbefore =>
      have hmem : ∀ p ∈ before, p ∈ Response.places := fun p hp => by simp [hplaces, hp]
      refine .place hplaces ((h.places place (by simp [hplaces]) s).mp htext) ?_
      exact fun p hp t ht => hbefore p hp t ((h.places p (hmem p hp) t).mpr ht)
  | absent hown hnone =>
      refine .absent (fun t ht => hown t ((h.own t).mpr ht)) ?_
      exact fun p hp t ht => hnone p hp t ((h.places p hp t).mpr ht)

theorem Agrees.content_eq {r r' : Response} (h : Agrees r r') : r'.content = r.content :=
  (h.isContent r.isContent_content).content_eq

/-- One mapping of a reply, at any depth, is replaced by a record with the same attributes, or one
record by a mapping. -/
inductive Recast : Response → Response → Prop
  | toRecord (fields : List (String × Response)) : Recast (.mapping fields) (.record fields)
  | toMapping (fields : List (String × Response)) : Recast (.record fields) (.mapping fields)
  | inMapping {v v' : Response} (h : Recast v v') (before after : List (String × Response))
      (key : String) :
      Recast (.mapping (before ++ (key, v) :: after)) (.mapping (before ++ (key, v') :: after))
  | inRecord {v v' : Response} (h : Recast v v') (before after : List (String × Response))
      (key : String) :
      Recast (.record (before ++ (key, v) :: after)) (.record (before ++ (key, v') :: after))
  | inList {v v' : Response} (h : Recast v v') (before after : List Response) :
      Recast (.list (before ++ v :: after)) (.list (before ++ v' :: after))

theorem Recast.symm {r r' : Response} (h : Recast r r') : Recast r' r := by
  induction h with
  | toRecord fields => exact .toMapping fields
  | toMapping fields => exact .toRecord fields
  | inMapping h before after key ih => exact .inMapping ih before after key
  | inRecord h before after key ih => exact .inRecord ih before after key
  | inList h before after ih => exact .inList ih before after

abbrev Recast? : Response → Response → Prop := Relation.ReflGen Recast

theorem exists_lookup_recast {v v' : Response} (h : Recast v v')
    (before after : List (String × Response)) (key : String) {wanted : String} {w : Response}
    (hw : (before ++ (key, v) :: after).lookup wanted = some w) :
    ∃ w', (before ++ (key, v') :: after).lookup wanted = some w' ∧ Recast? w w' := by
  rw [List.lookup_append] at hw ⊢
  cases hfront : before.lookup wanted with
  | some u =>
      rw [hfront, Option.some_or, Option.some.injEq] at hw
      rw [Option.some_or]
      exact ⟨u, rfl, hw ▸ .refl⟩
  | none =>
      rw [hfront, Option.none_or, List.lookup_cons] at hw
      rw [Option.none_or, List.lookup_cons]
      cases hkey : wanted == key with
      | true =>
          rw [hkey] at hw
          cases hw
          exact ⟨v', rfl, .single h⟩
      | false =>
          rw [hkey] at hw
          exact ⟨w, hw, .refl⟩

theorem exists_step_recast {r r' : Response} (h : Recast r r') {part : Part} {v : Response}
    (hv : step? part r = some v) : ∃ v', step? part r' = some v' ∧ Recast? v v' := by
  cases part with
  | field key =>
      cases h with
      | toRecord | toMapping => exact ⟨v, hv, .refl⟩
      | inMapping h before after k | inRecord h before after k =>
          exact exists_lookup_recast h before after k hv
      | inList => cases hv
  | first =>
      cases h with
      | inList h before after =>
          cases before with
          | nil =>
              cases hv
              exact ⟨_, rfl, .single h⟩
          | cons u before =>
              cases hv
              exact ⟨v, rfl, .refl⟩
      | toRecord | toMapping | inMapping | inRecord => cases hv

theorem exists_standsAt_recast {place : Place} {r r' v : Response} (h : Recast? r r')
    (hv : StandsAt place r v) : ∃ v', StandsAt place r' v' ∧ Recast? v v' := by
  induction place generalizing r r' with
  | nil =>
      cases hv
      exact ⟨r', .here r', h⟩
  | cons part rest ih =>
      obtain ⟨w, hstep, hrest⟩ := standsAt_cons_iff.mp hv
      cases h with
      | refl => exact ⟨v, hv, .refl⟩
      | single h =>
          obtain ⟨w', hstep', hw⟩ := exists_step_recast h hstep
          obtain ⟨v', hv', hvv⟩ := ih hw hrest
          exact ⟨v', standsAt_cons_iff.mpr ⟨w', hstep', hv'⟩, hvv⟩

theorem partText_recast {part part' : Response} (h : Recast part part') {s : String}
    (hs : PartText part s) : PartText part' s := by
  cases hs with
  | own => cases h
  | field hfield =>
      obtain ⟨v, hv, hsame⟩ := exists_standsAt_recast (.single h) hfield
      cases hsame with
      | refl => exact .field hv
      | single h => cases h

theorem partText?_recast {part part' : Response} (h : Recast part part') :
    part.partText? = part'.partText? := by
  refine Option.ext fun s => ?_
  rw [partText?_eq_some_iff, partText?_eq_some_iff]
  exact ⟨partText_recast h, partText_recast h.symm⟩

theorem givesText_recast {v v' : Response} (h : Recast? v v') {s : String} (hs : GivesText v s) :
    GivesText v' s := by
  cases h with
  | refl => exact hs
  | single h =>
      cases h with
      | toRecord | toMapping | inMapping | inRecord => cases hs
      | inList h before after =>
          cases hs with
          | parts hparts hsome =>
              refine .parts (partTexts_iff.mpr ?_) hsome
              rw [← partTexts_iff.mp hparts]
              simp only [List.filterMap_append, List.filterMap_cons, partText?_recast h]

theorem textAt_recast {r r' : Response} (h : Recast r r') {place : Place} {s : String}
    (hs : r.TextAt place s) : r'.TextAt place s := by
  obtain ⟨v, hv, htext⟩ := hs
  obtain ⟨v', hv', hsame⟩ := exists_standsAt_recast (.single h) hv
  exact ⟨v', hv', givesText_recast hsame htext⟩

theorem Recast.agrees {r r' : Response} (h : Recast r r') : Agrees r r' where
  own s := by
    constructor
    · rintro rfl
      cases h
    · rintro rfl
      cases h
  places _ _ _ := ⟨textAt_recast h, textAt_recast h.symm⟩

theorem content_eq_of_recasts {r r' : Response} (h : Relation.ReflTransGen Recast r r') :
    r'.content = r.content := by
  induction h with
  | refl => rfl
  | tail _ h ih => exact h.agrees.content_eq.trans ih

/-- The text of a reply is that at the first of the six places that has one; nothing else in the
reply counts for it, nor whether its parts are mappings or records. -/
theorem content_isFirst (r : Response) :
    (∀ s, r.content = s ↔ r.IsContent s) ∧
    (∀ r', r.Agrees r' → r'.content = r.content) ∧
    (∀ r', Relation.ReflTransGen Recast r r' → r'.content = r.content) :=
  ⟨fun _ => content_eq_iff, fun _ => Agrees.content_eq, fun _ => content_eq_of_recasts⟩

def chosen : Response :=
  .mapping [("content", .other), ("message", .record [("content", .list [.other])]),
    ("choices", .list [.mapping [("message", .text "no"),
      ("text", .list [.text "a", .other, .record [("text", .text "b")]])]])]

def rechosen : Response :=
  .record [("id", .text "x"), ("choices", .list [.mapping [("text", .text "ab")], .text "c"])]

theorem content_chosen_isFirst :
    chosen.IsContent "ab" ∧
    (chosen.Agrees rechosen ∧ rechosen.content = "ab") ∧
    ∃ r', Relation.ReflTransGen Recast chosen r' ∧ r' ≠ chosen ∧ r'.content = "ab" := by
  obtain ⟨hcontent, hagrees, hrecasts⟩ := content_isFirst chosen
  have hchosen : chosen.content = "ab" := by rfl
  have htexts : ∀ p ∈ places, textThrough? p chosen = textThrough? p rechosen := by decide
  have hsame : chosen.Agrees rechosen := by
    refine ⟨fun s => iff_of_false nofun nofun, fun p hp s => ?_⟩
    rw [← textThrough?_eq_some_iff, htexts p hp, textThrough?_eq_some_iff]
  have hstep : Relation.ReflTransGen Recast chosen (.record _) := .single (.toRecord _)
  exact ⟨(hcontent "ab").mp hchosen, ⟨hsame, (hagrees _ hsame).trans hchosen⟩,
    _, hstep, nofun, (hrecasts _ hstep).trans hchosen⟩

end Dissect.Response
