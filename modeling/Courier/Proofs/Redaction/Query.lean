import Courier.Proofs.Redaction
import Courier.Proofs.Text.Cut

/-! What the redaction of a URL leaves: everything up to the first question mark, how many parameters there
are, their order and their keys, and every parameter that is not sensitive. A value that has been covered is
a value like any other, so a second redaction finds nothing to do. -/

namespace Courier.Redaction

open Text (cutFirst cutAll joinWith)

/-- The key of a parameter: what stands before its first equals sign. -/
def keyOf (p : List Char) : List Char := p.takeWhile (· != '=')

/-- What becomes of a parameter. One without an equals sign has no value that could be covered. -/
structure Redacts (p q : List Char) : Prop where
  key : keyOf q = keyOf p
  kept : isSensitive (keyOf p) = false ∨ '=' ∉ p → q = p
  covered : isSensitive (keyOf p) = true → '=' ∈ p → q = keyOf p ++ "=[REDACTED]".toList

/-- Whether a letter is a given one, or its capital if that is a small letter of ASCII. -/
def SameLetter (c d : Char) : Prop := c = d ∨ 97 ≤ d.toNat ∧ d.toNat ≤ 122 ∧ c.toNat + 32 = d.toNat

variable {p name : List Char}

theorem keyOf_append (h : '=' ∉ name) (value : List Char) : keyOf (name ++ '=' :: value) = name := by
  rw [keyOf, Text.takeWhile_append_cons rfl, Text.takeWhile_of_not_mem h]

theorem IsSecret.keyOf (h : IsSecret p) : isSensitive (keyOf p) = true ∧ '=' ∈ p := by
  obtain ⟨name, value, rfl, hname⟩ := h
  rw [keyOf_append (not_mem_of_isSensitive hname (by decide))]
  exact ⟨hname, by simp⟩

theorem isSecret_of_keyOf (h : isSensitive (keyOf p) = true) (hmem : '=' ∈ p) : IsSecret p := by
  cases hcut : cutFirst '=' p with
  | none => exact absurd hmem (Text.cutFirst_eq_none.mp hcut)
  | some parts =>
    obtain ⟨rfl, hno⟩ := Text.cutFirst_eq_some.mp hcut
    rw [keyOf_append hno] at h
    exact ⟨parts.1, parts.2, rfl, h⟩

theorem parameter_of_not_isSecret (h : ¬ IsSecret p) : parameter p = p := by
  cases hcut : cutFirst '=' p with
  | none => rw [parameter, hcut]
  | some parts =>
    obtain ⟨rfl, hno⟩ := Text.cutFirst_eq_some.mp hcut
    refine parameter_of_not ?_ hno parts.2
    rw [Bool.eq_false_iff]
    intro hname
    exact h ⟨parts.1, parts.2, rfl, hname⟩

theorem parameter_of_isSecret (h : IsSecret p) : parameter p = keyOf p ++ "=[REDACTED]".toList := by
  obtain ⟨name, value, rfl, hname⟩ := h
  rw [keyOf_append (not_mem_of_isSensitive hname (by decide)), parameter_of_isSensitive hname]

theorem redacts_parameter (p : List Char) : Redacts p (parameter p) := by
  by_cases h : IsSecret p
  · have hcovered := parameter_of_isSecret h
    obtain ⟨hname, hmem⟩ := h.keyOf
    have hno : '=' ∉ keyOf p := not_mem_of_isSensitive hname (by decide)
    refine ⟨?_, ?_, fun _ _ => hcovered⟩
    · rw [hcovered]
      exact keyOf_append hno "[REDACTED]".toList
    · rintro (hplain | hbare)
      · rw [hname] at hplain
        cases hplain
      · exact absurd hmem hbare
  · have hkept := parameter_of_not_isSecret h
    exact ⟨by rw [hkept], fun _ => hkept, fun hname hmem => absurd (isSecret_of_keyOf hname hmem) h⟩

theorem parameter_parameter (p : List Char) : parameter (parameter p) = parameter p := by
  by_cases h : IsSecret p
  · rw [parameter_of_isSecret h]
    exact parameter_of_isSensitive h.keyOf.1 "[REDACTED]".toList
  · rw [parameter_of_not_isSecret h, parameter_of_not_isSecret h]

theorem not_mem_parameter (h : '&' ∉ p) : '&' ∉ parameter p := by
  by_cases hp : IsSecret p
  · have hkey : '&' ∉ keyOf p := fun hmem => h ((List.takeWhile_prefix _).subset hmem)
    rw [parameter_of_isSecret hp, List.mem_append, not_or]
    exact ⟨hkey, by decide⟩
  · rwa [parameter_of_not_isSecret hp]

theorem url_of_not_mem {u : String} (h : '?' ∉ u.toList) : url u = u := by
  rw [url, Text.cutFirst_eq_none.mpr h]

/-- The redacted parameters are found again where they were joined. -/
theorem cutAll_redacted (query : List Char) :
    cutAll '&' (joinWith '&' ((cutAll '&' query).map parameter)) = (cutAll '&' query).map parameter := by
  apply Text.cutAll_joinWith
  · simpa using Text.cutAll_ne_nil '&' query
  · intro q hq
    obtain ⟨p, hp, rfl⟩ := List.mem_map.mp hq
    exact not_mem_parameter (Text.not_mem_of_mem_cutAll hp)

theorem url_url (u : String) : url (url u) = url u := by
  by_cases h : '?' ∈ u.toList
  · cases hcut : cutFirst '?' u.toList with
    | none => exact absurd h (Text.cutFirst_eq_none.mp hcut)
    | some parts =>
      obtain ⟨hu, hbase⟩ := Text.cutFirst_eq_some.mp hcut
      rw [url_of_query hu hbase, url_of_query (String.toList_ofList ..) hbase, cutAll_redacted, List.map_map]
      congr 5
      funext p
      exact parameter_parameter p
  · rw [url_of_not_mem h, url_of_not_mem h]

theorem toNat_toLower (c : Char) :
    c.toLower.toNat = if 65 ≤ c.toNat ∧ c.toNat ≤ 90 then c.toNat + 32 else c.toNat := by
  by_cases h : 65 ≤ c.toNat ∧ c.toNat ≤ 90
  · have hlower : c.toLower.toNat = (c.val + 32).toNat := congrArg Char.toNat (dif_pos h : c.toLower = _)
    have hlast : c.val.toNat ≤ 90 := h.2
    have hsum : (c.val + 32).toNat = c.val.toNat + 32 := by
      rw [UInt32.toNat_add, Nat.mod_eq_of_lt]
      · rfl
      · change c.val.toNat + 32 < 4294967296
        omega
    rw [if_pos h, hlower, hsum]
    rfl
  · have hlower : c.toLower = c := dif_neg h
    rw [if_neg h, hlower]

theorem toLower_eq_iff {c d : Char} (hd : 90 < d.toNat) : c.toLower = d ↔ SameLetter c d := by
  have hval {a b : Char} : a = b ↔ a.toNat = b.toNat := ⟨congrArg _, fun h => Char.ext (UInt32.toNat_inj.mp h)⟩
  rw [SameLetter, hval, hval, toNat_toLower]
  split <;> omega

theorem map_toLower_eq_iff {name small : List Char} (h : ∀ d ∈ small, 90 < d.toNat) :
    name.map Char.toLower = small ↔ List.Forall₂ SameLetter name small := by
  induction small generalizing name with
  | nil => simp
  | cons d small ih =>
    obtain ⟨hd, hsmall⟩ := List.forall_mem_cons.mp h
    cases name with
    | nil => simp
    | cons c name => rw [List.map_cons, List.cons.injEq, List.forall₂_cons, toLower_eq_iff hd, ih hsmall]

/-- The seven names of the parameters whose values are secret, whatever the case of their letters. -/
theorem isSensitive_iff : isSensitive name = true ↔
    ∃ s ∈ ["token", "access_token", "refresh_token", "code", "secret", "password", "authorization"],
      List.Forall₂ SameLetter name s.toList := by
  -- no capital is in any of the names
  have hall : (sensitiveNames.all fun s => s.toList.all fun d => decide (90 < d.toNat)) = true := by decide
  have hsmall {s : String} (hs : s ∈ sensitiveNames) (d : Char) (hd : d ∈ s.toList) : 90 < d.toNat :=
    of_decide_eq_true (List.all_eq_true.mp (List.all_eq_true.mp hall s hs) d hd)
  simp only [isSensitive, List.any_eq_true, beq_iff_eq]
  refine exists_congr fun s => and_congr_right fun hs => ?_
  rw [eq_comm, map_toLower_eq_iff (hsmall hs)]

/-- A URL without a query stays as it is. Of any other the text up to the first question mark stays, and one
parameter after the other is redacted: its key stays, a sensitive value is covered, everything else stays too.
A second redaction changes nothing, and a URL that differs in values of sensitive parameters alone is redacted
to the same text. -/
theorem url_keeps_all_but_secrets (u : String) :
    ('?' ∉ u.toList → url u = u) ∧
    (∀ base query, u.toList = base ++ '?' :: query → '?' ∉ base →
      ∃ redacted, (url u).toList = base ++ '?' :: redacted ∧
        List.Forall₂ Redacts (cutAll '&' query) (cutAll '&' redacted)) ∧
    url (url u) = url u ∧
    ∀ v, Alike u v → url u = url v := by
  refine ⟨url_of_not_mem, fun base query hu hbase => ?_, url_url u, fun v => url_eq_of_alike⟩
  refine ⟨joinWith '&' ((cutAll '&' query).map parameter), ?_, ?_⟩
  · rw [url_of_query hu hbase, String.toList_ofList]
  · rw [cutAll_redacted, List.forall₂_map_right_iff, List.forall₂_same]
    exact fun p _ => redacts_parameter p

example : url "h?&TOKEN=a=b&page=1&token&x?code=2" = "h?&TOKEN=[REDACTED]&page=1&token&x?code=2" := by
  decide +kernel

end Courier.Redaction
