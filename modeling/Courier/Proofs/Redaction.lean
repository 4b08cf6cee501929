import Courier.Redaction
import Mathlib.Data.List.Forall2

/-! What the redaction of a URL shows of the values of its sensitive parameters: nothing. Which parameter
is which is a matter of text: the query begins at the first question mark, ampersands part it, and a
name ends at the first equals sign. A URL that grows at its end shows what it grows by, unless its last
parameter is sensitive. -/

namespace Courier.Redaction

open Text (cutFirst cutAll joinWith)

/-- Whether two parameters agree but for the value of a sensitive one. -/
inductive SameParameter : List Char → List Char → Prop where
  | same (p) : SameParameter p p
  | secret {name} (v w) : isSensitive name = true → SameParameter (name ++ '=' :: v) (name ++ '=' :: w)

/-- Whether two URLs agree but for the values of sensitive parameters. -/
inductive Alike : String → String → Prop where
  | same (u) : Alike u u
  | query {u v base ps qs} : u.toList = base ++ '?' :: joinWith '&' ps →
      v.toList = base ++ '?' :: joinWith '&' qs → '?' ∉ base → (∀ p ∈ ps ++ qs, '&' ∉ p) →
      List.Forall₂ SameParameter ps qs → Alike u v

variable {name : List Char}

theorem not_mem_of_isSensitive {c : Char} (h : isSensitive name = true)
    (hc : ∀ s ∈ sensitiveNames, c.toLower ∉ s.toList) : c ∉ name := by
  obtain ⟨s, hs, hname⟩ := List.any_eq_true.mp h
  intro hmem
  apply hc s hs
  rw [beq_iff_eq.mp hname]
  exact List.mem_map_of_mem hmem

theorem parameter_of_isSensitive (h : isSensitive name = true) (value : List Char) :
    parameter (name ++ '=' :: value) = name ++ "=[REDACTED]".toList := by
  have hno : '=' ∉ name := not_mem_of_isSensitive h (by decide)
  rw [parameter, Text.cutFirst_append hno]
  exact if_pos h

theorem parameter_of_not (h : isSensitive name = false) (hno : '=' ∉ name) (value : List Char) :
    parameter (name ++ '=' :: value) = name ++ '=' :: value := by
  rw [parameter, Text.cutFirst_append hno]
  simp [h]

theorem SameParameter.parameter_eq {p q : List Char} (h : SameParameter p q) : parameter p = parameter q := by
  cases h with
  | same => rfl
  | secret v w hname => rw [parameter_of_isSensitive hname, parameter_of_isSensitive hname]

theorem map_parameter_eq {ps qs : List (List Char)} (h : List.Forall₂ SameParameter ps qs) :
    ps.map parameter = qs.map parameter := by
  induction h with
  | nil => rfl
  | cons hp _ ih => rw [List.map_cons, List.map_cons, hp.parameter_eq, ih]

theorem url_of_query {u : String} {base query : List Char} (hu : u.toList = base ++ '?' :: query)
    (hbase : '?' ∉ base) :
    url u = String.ofList (base ++ '?' :: joinWith '&' ((cutAll '&' query).map parameter)) := by
  rw [url, hu, Text.cutFirst_append hbase]

/-- URLs that agree but for the values of sensitive parameters are redacted to one text. -/
theorem url_eq_of_alike {u v : String} (h : Alike u v) : url u = url v := by
  cases h with
  | same => rfl
  | @query _ base ps qs hu hv hbase hparts hsame =>
    rw [url_of_query hu hbase, url_of_query hv hbase]
    have hmap := map_parameter_eq hsame
    cases hsame with
    | nil => rfl
    | cons _ _ =>
      rw [Text.cutAll_joinWith (by simp) fun p hp => hparts p (List.mem_append_left _ hp),
        Text.cutAll_joinWith (by simp) fun q hq => hparts q (List.mem_append_right _ hq), hmap]

/-- Whether a text is a URL with these parameters, the last of which may grow. -/
structure Queried (u base : List Char) (params : List (List Char)) (last : List Char) : Prop where
  text : u = base ++ '?' :: joinWith '&' (params ++ [last])
  base : '?' ∉ base
  parts : ∀ p ∈ params ++ [last], '&' ∉ p

def IsSecret (p : List Char) : Prop := ∃ name value, p = name ++ '=' :: value ∧ isSensitive name = true

/-- Whether a URL ends in a sensitive parameter, so that what follows belongs to its value. -/
def EndsInSecret (u : List Char) : Prop := ∃ base params last, Queried u base params last ∧ IsSecret last

variable {u base last tail : List Char} {params : List (List Char)}

theorem exists_queried (h : '?' ∈ u) : ∃ base params last, Queried u base params last := by
  cases hcut : cutFirst '?' u with
  | none => exact absurd h (Text.cutFirst_eq_none.mp hcut)
  | some parts =>
    obtain ⟨base, query⟩ := parts
    obtain ⟨hu, hbase⟩ := Text.cutFirst_eq_some.mp hcut
    have hne := Text.cutAll_ne_nil '&' query
    have hparts := List.dropLast_append_getLast hne
    refine ⟨base, (cutAll '&' query).dropLast, (cutAll '&' query).getLast hne, ?_, hbase, ?_⟩
    · rw [hparts, Text.joinWith_cutAll, hu]
    · rw [hparts]
      intro p hp
      exact Text.not_mem_of_mem_cutAll hp

namespace Queried

theorem cut (h : Queried u base params last) :
    ∃ query, cutFirst '?' u = some (base, query) ∧ cutAll '&' query = params ++ [last] := by
  refine ⟨_, ?_, Text.cutAll_joinWith (by simp) h.parts⟩
  rw [h.text, Text.cutFirst_append h.base]

/-- There is one way to cut a URL. -/
theorem last_unique {base' last' : List Char} {params' : List (List Char)} (h : Queried u base params last)
    (h' : Queried u base' params' last') : last = last' := by
  obtain ⟨query, hfirst, hall⟩ := h.cut
  obtain ⟨query', hfirst', hall'⟩ := h'.cut
  rw [hfirst, Option.some.injEq, Prod.mk.injEq] at hfirst'
  rw [← hfirst'.2, hall] at hall'
  simpa using (List.append_inj' hall' rfl).2

theorem append (h : Queried u base params last) (htail : '&' ∉ tail) :
    Queried (u ++ tail) base params (last ++ tail) where
  text := by rw [h.text, Text.joinWith_append_last, List.append_assoc, List.cons_append]
  base := h.base
  parts p hp := by
    rcases List.mem_append.mp hp with hp | hp
    · exact h.parts p (List.mem_append_left _ hp)
    · rw [List.mem_singleton.mp hp]
      simp [h.parts last, htail]

theorem prepend {scheme : List Char} (h : Queried u base params last) (hscheme : '?' ∉ scheme) :
    Queried (scheme ++ u) (scheme ++ base) params last where
  text := by rw [h.text, List.append_assoc]
  base := by simp [hscheme, h.base]
  parts := h.parts

theorem endsInSecret_iff (h : Queried u base params last) : EndsInSecret u ↔ IsSecret last := by
  constructor
  · rintro ⟨base', params', last', h', hsecret⟩
    rwa [h.last_unique h']
  · intro hsecret
    exact ⟨base, params, last, h, hsecret⟩

theorem url_eq (h : Queried u base params last) :
    url (String.ofList u) =
      String.ofList (base ++ '?' :: joinWith '&' (params.map parameter ++ [parameter last])) := by
  obtain ⟨query, hfirst, hall⟩ := h.cut
  rw [url, String.toList_ofList, hfirst]
  simp [hall]

end Queried

/-- A sensitive parameter covers what follows it. -/
theorem url_append_of_endsInSecret (h : EndsInSecret u) (htail : '&' ∉ tail) :
    url (String.ofList (u ++ tail)) = url (String.ofList u) := by
  obtain ⟨base, params, _, hu, name, value, rfl, hname⟩ := h
  rw [hu.url_eq, (hu.append htail).url_eq, parameter_of_isSensitive hname, List.append_assoc,
    List.cons_append, parameter_of_isSensitive hname]

/-- Any other parameter shows it. -/
theorem url_append_of_not (h : Queried u base params last) (hno : ¬ IsSecret last) (hname : '=' ∈ last)
    (htail : '&' ∉ tail) : url (String.ofList (u ++ tail)) = url (String.ofList u) ++ String.ofList tail := by
  cases hcut : cutFirst '=' last with
  | none => exact absurd hname (Text.cutFirst_eq_none.mp hcut)
  | some parts =>
    obtain ⟨name, value⟩ := parts
    obtain ⟨rfl, hplain⟩ := Text.cutFirst_eq_some.mp hcut
    have hsecret : isSensitive name = false := by
      rw [Bool.eq_false_iff]
      intro hsecret
      exact hno ⟨name, value, rfl, hsecret⟩
    rw [h.url_eq, (h.append htail).url_eq, List.append_assoc, List.cons_append,
      parameter_of_not hsecret hplain, parameter_of_not hsecret hplain, ← List.cons_append,
      ← List.append_assoc, Text.joinWith_append_last, ← String.ofList_append, List.append_assoc,
      List.cons_append]

end Courier.Redaction
