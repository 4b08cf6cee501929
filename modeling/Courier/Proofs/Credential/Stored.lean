import Courier.Credential.Credentials
import Courier.Proofs.Json.Fields
import Courier.Proofs.Json.RoundTrip
import Courier.Proofs.Time.Reading

/-! Stored credentials. What is written is read back as it was, to the nanosecond of the expiry and with or without
a refresh token, unless they expire in a leap second that ends no minute; and whatever text is read, its access token
is a proper one. -/

namespace Courier.Credentials

open Json (Tree StandsOnce Reads)

def fieldNames : List String := ["accessToken", "expiresAt", "refreshToken"]

theorem reads_members (c : Credentials) : ∀ m ∈ c.members, Reads 0 m.2 := by
  obtain ⟨token, expiry, refresh⟩ := c
  cases refresh <;> simp [members, Json.reads_string]

theorem standsOnce_members (c : Credentials) : ∀ name ∈ fieldNames, StandsOnce c.members name := by
  obtain ⟨token, expiry, refresh⟩ := c
  cases refresh <;> simp [fieldNames, members, StandsOnce]

theorem readToken?_of_string? {t : Tree} {token : AccessToken} (h : t.string? = some token.text) :
    readToken? t = some token := by
  rw [readToken?, h]
  simp [AccessToken.make_text]

theorem text_of_readToken? {t : Tree} {token : AccessToken} (h : readToken? t = some token) :
    t.string? = some token.text := by
  rw [readToken?] at h
  obtain ⟨s, hs, h⟩ := Option.bind_eq_some_iff.mp h
  cases hmake : AccessToken.make s with
  | error fault => simp [hmake] at h
  | ok made =>
    rw [hmake] at h
    cases h
    rw [hs, AccessToken.make_eq_ok.mp hmake]

theorem readInstant?_of_string? {t : Tree} {s : String} (h : t.string? = some s) :
    readInstant? t = Time.Instant.read? s := by
  rw [readInstant?, h]
  rfl

/-- Credentials are read back from what they are stored as, with the expiry that is read from its text. -/
theorem parse?_text (c : Credentials) {t : Time.Instant} (hread : Time.Instant.read? c.expiresAt.text = some t) :
    parse? c.text = some { c with expiresAt := t } := by
  obtain ⟨ts, htree, hmembers⟩ := Json.parse_recordText c.reads_members
  obtain ⟨found, hfound, hholds⟩ := Json.fields?_object hmembers c.standsOnce_members
  rcases hholds with _ | ⟨htoken, _ | ⟨hexpiry, _ | ⟨hrefresh, _ | _⟩⟩⟩
  obtain ⟨token, rfl, tokenReads⟩ := htoken.string (s := c.accessToken.text) rfl
  obtain ⟨expiry, rfl, expiryReads⟩ := hexpiry.string (s := c.expiresAt.text) rfl
  rw [fieldNames] at hfound
  rw [parse?, text, htree]
  simp only [bind, Option.bind, hfound, readToken?_of_string? tokenReads, readInstant?_of_string? expiryReads,
    hread]
  obtain ⟨accessToken, expiresAt, refreshToken⟩ := c
  cases refreshToken with
  | none =>
    rw [hrefresh.absent rfl]
    rfl
  | some refresh =>
    obtain ⟨tree, rfl, hread⟩ := hrefresh.present (v := .string refresh) rfl
    simp only [Json.stringOrNull?_of_toValue? hread]
    rfl

/-- The string that a text names as its access token, be it one or not. -/
def namedToken? (text : String) : Option String := do
  let tree ← Tree.parse text
  match ← tree.fields? fieldNames with
  | some token :: _ => token.string?
  | _ => none

/-- What is read is the access token that the text names, and an expiry that is read from some text. -/
theorem named_of_parse? {text : String} {c : Credentials} (h : parse? text = some c) :
    namedToken? text = some c.accessToken.text ∧ ∃ expiry, Time.Instant.read? expiry = some c.expiresAt := by
  rw [parse?] at h
  obtain ⟨tree, htree, h⟩ := Option.bind_eq_some_iff.mp h
  obtain ⟨found, hfound, h⟩ := Option.bind_eq_some_iff.mp h
  split at h
  next token expiry refresh =>
    obtain ⟨accessToken, htoken, h⟩ := Option.bind_eq_some_iff.mp h
    obtain ⟨expiresAt, hexpiry, h⟩ := Option.bind_eq_some_iff.mp h
    obtain ⟨written, -, hexpiry⟩ := Option.bind_eq_some_iff.mp hexpiry
    have hsame : accessToken = c.accessToken ∧ expiresAt = c.expiresAt := by
      cases refresh with
      | none =>
        cases h
        exact ⟨rfl, rfl⟩
      | some tree =>
        obtain ⟨refreshToken, -, h⟩ := Option.bind_eq_some_iff.mp h
        cases h
        exact ⟨rfl, rfl⟩
    obtain ⟨rfl, rfl⟩ := hsame
    exact ⟨by simp [namedToken?, htree, fieldNames, hfound, text_of_readToken? htoken], written, hexpiry⟩
  next => cases h

/-- Whatever text credentials are read from, their expiry is one that is read back. -/
theorem endsMinute_of_parse? {text : String} {c : Credentials} (h : parse? text = some c) :
    c.expiresAt.EndsMinute := by
  obtain ⟨-, expiry, hexpiry⟩ := named_of_parse? h
  exact Time.Instant.endsMinute_of_read? hexpiry

theorem parse?_text_of_endsMinute {c : Credentials} (h : c.expiresAt.EndsMinute) : parse? c.text = some c :=
  c.parse?_text (Time.Instant.read?_text h)

/-- Storing and loading changes nothing, whether one begins with a text that is read as credentials, or with
credentials that expire outside leap seconds or in one that ends a minute. Of others the second after the leap second
is read. The token that a text names is not empty and holds no white space if credentials are read from it. -/
theorem stored_credentials_survive :
    (∀ c : Credentials, parse? c.text = some c ↔ c.expiresAt.EndsMinute) ∧
      (∀ c : Credentials, ¬ c.expiresAt.EndsMinute → ∃ t : Time.Instant, t.seconds = c.expiresAt.seconds + 1 ∧
        t.nanos + 1000000000 = c.expiresAt.nanos ∧ parse? c.text = some { c with expiresAt := t }) ∧
      ∀ (text : String) (c : Credentials), parse? text = some c →
        ∃ token, namedToken? text = some token ∧ c.accessToken.text = token ∧ token ≠ "" ∧
          (∀ ch ∈ token.toList, Text.isBlank ch = false) ∧ parse? c.text = some c := by
  refine ⟨fun c => ⟨endsMinute_of_parse?, parse?_text_of_endsMinute⟩, fun c hc => ?_, fun text c h => ?_⟩
  · obtain ⟨t, hseconds, hnanos, hread⟩ := Time.Instant.exists_read?_text hc
    exact ⟨t, hseconds, hnanos, c.parse?_text hread⟩
  · have hblank : ∀ ch ∈ c.accessToken.text.toList, Text.isBlank ch = false := by
      simpa using c.accessToken.no_blank
    exact ⟨c.accessToken.text, (named_of_parse? h).1, rfl, c.accessToken.not_empty, hblank,
      parse?_text_of_endsMinute (endsMinute_of_parse? h)⟩

/-- Credentials that expire at the end of the leap second of 2016, with an empty refresh token. -/
def leapSecond : Credentials :=
  ⟨⟨"tok", by decide, by decide⟩, ⟨1483228799, 1999999999, by decide, by decide, by decide⟩, some ""⟩

theorem leap_second_survives :
    leapSecond.expiresAt.EndsMinute ∧
      ∃ text, parse? text = some leapSecond ∧ namedToken? text = some "tok" := by
  have hends : leapSecond.expiresAt.EndsMinute := by decide
  obtain ⟨hround, -, hread⟩ := stored_credentials_survive
  have hsame := (hround leapSecond).mpr hends
  obtain ⟨token, hnamed, htoken, -⟩ := hread leapSecond.text leapSecond hsame
  exact ⟨hends, leapSecond.text, hsame, hnamed.trans (congrArg some htoken.symm)⟩

def strayLeap : Credentials :=
  ⟨⟨"tok", by decide, by decide⟩, ⟨1700000004, 1500000000, by decide, by decide, by decide⟩, none⟩

def afterLeap : Credentials :=
  { strayLeap with expiresAt := ⟨1700000005, 500000000, by decide, by decide, by decide⟩ }

theorem stray_leap_is_lost :
    strayLeap.text = "\x7b\"accessToken\":\"tok\",\"expiresAt\":\"2023-11-14T22:13:25.500Z\"\x7d" ∧
      parse? strayLeap.text = some afterLeap ∧ parse? strayLeap.text ≠ some strayLeap := by
  have hread : parse? strayLeap.text = some afterLeap := by decide +kernel
  have hother : afterLeap ≠ strayLeap := by decide
  exact ⟨by decide +kernel, hread, fun h => hother (Option.some.inj (hread.symm.trans h))⟩

end Courier.Credentials
