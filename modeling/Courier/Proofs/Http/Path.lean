import Courier.Http.Url
import Courier.Proofs.Text.Cut
import Courier.Proofs.Text.Percent

/-! The path of an address that is made of a base URL and a path behind it. If neither has a query or a
fragment, the base URL decides about everything but the path. Its own segments lead to a directory, and the
segments of the path behind it are walked from there. -/

namespace Courier.Http.Url

open Text (cutFirst cutAll)

def descend (done : List String) (segment : String) : List String :=
  if isDoubleDot segment then done.tail
  else if isSingleDot segment then done
  else segment :: done

def IsName (segment : String) : Prop := isDoubleDot segment = false ∧ isSingleDot segment = false

theorem isDoubleDot_iff {segment : String} : isDoubleDot segment = true ↔
    segment.toList.map Char.toLower ∈ ["..".toList, ".%2e".toList, "%2e.".toList, "%2e%2e".toList] := by
  simp only [isDoubleDot, Bool.or_eq_true, beq_iff_eq, ← String.toList_inj, String.toList_map, List.mem_cons,
    List.not_mem_nil, or_false, or_assoc]

theorem isSingleDot_iff {segment : String} : isSingleDot segment = true ↔
    segment.toList = ".".toList ∨ segment.toList.map Char.toLower = "%2e".toList := by
  simp only [isSingleDot, Bool.or_eq_true, beq_iff_eq, ← String.toList_inj, String.toList_map]

theorem isName_iff {segment : String} : IsName segment ↔
    segment.toList.map Char.toLower ∉ ["..".toList, ".%2e".toList, "%2e.".toList, "%2e%2e".toList] ∧
      segment.toList ≠ ".".toList ∧ segment.toList.map Char.toLower ≠ "%2e".toList := by
  rw [IsName, ← Bool.not_eq_true, ← Bool.not_eq_true, isDoubleDot_iff, isSingleDot_iff, not_or]

instance (segment : String) : Decidable (IsName segment) := decidable_of_iff _ isName_iff.symm

theorem resolve_cons {rest : List String} (h : rest ≠ []) (done : List String) (segment : String) :
    resolve done (segment :: rest) = resolve (descend done segment) rest := by
  cases rest with
  | nil => exact absurd rfl h
  | cons next rest =>
    rw [resolve, descend]
    · split
      · rfl
      · split <;> rfl
    · simp

theorem resolve_append {rest : List String} (h : rest ≠ []) (done segments : List String) :
    resolve done (segments ++ rest) = resolve (segments.foldl descend done) rest := by
  induction segments generalizing done with
  | nil => rfl
  | cons segment segments ih =>
    rw [List.cons_append, resolve_cons (List.append_ne_nil_of_right_ne_nil _ h), ih, List.foldl_cons]

theorem descend_name {segment : String} (h : IsName segment) (done : List String) :
    descend done segment = segment :: done := by
  rw [descend, h.1, h.2]
  rfl

theorem resolve_names {segments : List String} (hne : segments ≠ []) (h : ∀ s ∈ segments, IsName s)
    (done : List String) : resolve done segments = done.reverse ++ segments := by
  induction segments generalizing done with
  | nil => exact absurd rfl hne
  | cons segment segments ih =>
    have hname := h segment List.mem_cons_self
    cases segments with
    | nil =>
      rw [resolve, hname.1, hname.2]
      simp
    | cons next rest =>
      rw [resolve_cons (List.cons_ne_nil next rest), descend_name hname,
        ih (List.cons_ne_nil next rest) fun s hs => h s (List.mem_cons_of_mem _ hs)]
      simp

/-- The segments of a path, after its first slash, before dots are resolved. -/
def segments (path : List Char) : List String :=
  (cutAll '/' (path.map fun c => if c == '\\' then '/' else c)).map (encodeAll pathSet)

theorem parsePath_eq (path : List Char) : parsePath path = resolve [] (segments path) := rfl

theorem segments_ne_nil (path : List Char) : segments path ≠ [] := by
  rw [segments, Ne, List.map_eq_nil_iff]
  exact Text.cutAll_ne_nil _ _

theorem segments_append (front tail : List Char) :
    segments (front ++ '/' :: tail) = segments front ++ segments tail := by
  rw [segments, List.map_append, List.map_cons, if_neg (by decide), Text.cutAll_append_cons, List.map_append]
  rfl

/-- Where a path behind `rest` is walked from: `rest` is what follows the authority of a base URL. -/
def directory (rest : List Char) : List String :=
  match rest with
  | [] => []
  | _ :: path => (segments path).foldl descend []

theorem parsePath_append (rest tail : List Char) :
    parsePath ((rest ++ '/' :: tail).drop 1) = resolve (directory rest) (segments tail) := by
  cases rest with
  | nil => rfl
  | cons c path =>
    rw [List.cons_append, List.drop_succ_cons, List.drop_zero, parsePath_eq, segments_append,
      resolve_append (segments_ne_nil tail)]
    rfl

def isPlain (c : Char) : Bool := c.isAlphanum || c == '%' || c == '-' || c == '/'

theorem ne_of_isPlain {c d : Char} (hc : isPlain c = true) (hd : isPlain d = false) : c ≠ d := by
  rintro rfl
  rw [hc] at hd
  cases hd

theorem not_mem_of_isPlain {cs : List Char} {d : Char} (h : ∀ c ∈ cs, isPlain c = true)
    (hd : isPlain d = false) : d ∉ cs :=
  fun hmem => ne_of_isPlain (h d hmem) hd rfl

theorem toNat_of_isPlain {c : Char} (h : isPlain c = true) : c.toNat < 128 := by
  have hbelow (last : Char) (hlast : last.toNat < 128) (hle : c.val ≤ last.val) : c.toNat < 128 :=
    Nat.lt_of_le_of_lt (UInt32.le_iff_toNat_le.mp hle) hlast
  have hletter (hc : c.isAlphanum = true) : c.toNat < 128 := by
    rcases Bool.or_eq_true_iff.mp hc with hc | hdigit
    · rcases Bool.or_eq_true_iff.mp hc with hupper | hlower
      · exact hbelow 'Z' (by decide) (of_decide_eq_true hupper).2
      · exact hbelow 'z' (by decide) (of_decide_eq_true (Bool.and_eq_true_iff.mp hlower).2)
    · exact hbelow '9' (by decide) (of_decide_eq_true (Bool.and_eq_true_iff.mp hdigit).2)
  simp only [isPlain, Bool.or_eq_true, beq_iff_eq] at h
  rcases h with ((h | rfl) | rfl) | rfl
  · exact hletter h
  · decide
  · decide
  · decide

theorem encodeChar_of_isPlain {c : Char} (h : isPlain c = true) : encodeChar pathSet c = [c] := by
  have hall : ∀ n < 128, isPlain (Char.ofNat n) = true → encodeChar pathSet (Char.ofNat n) = [Char.ofNat n] := by
    decide +kernel
  have hc := hall c.toNat (toNat_of_isPlain h)
  rw [Char.ofNat_toNat] at hc
  exact hc h

theorem segments_of_isPlain {cs : List Char} (h : ∀ c ∈ cs, isPlain c = true) (hslash : '/' ∉ cs) :
    segments cs = [String.ofList cs] := by
  have hsame : (cs.map fun c => if c == '\\' then '/' else c) = cs := by
    have hkeep : ∀ c ∈ cs, (if c == '\\' then '/' else c) = c := fun c hc =>
      if_neg (beq_iff_eq.not.mpr (ne_of_isPlain (h c hc) rfl))
    rw [List.map_congr_left hkeep, List.map_id']
  have hencode : encodeAll pathSet cs = String.ofList cs := by
    rw [encodeAll, List.flatMap_congr fun c hc => encodeChar_of_isPlain (h c hc), List.flatMap_singleton']
  rw [segments, hsame, Text.cutAll_of_not_mem hslash, List.map_singleton, hencode]

def written (names : List String) : List Char := Text.joinWith '/' (names.map String.toList)

theorem written_cons {names : List String} (hne : names ≠ []) (name : String) :
    written (name :: names) = name.toList ++ '/' :: written names := by
  cases names with
  | nil => exact absurd rfl hne
  | cons next names => rfl

theorem isPlain_written {names : List String} (h : ∀ name ∈ names, ∀ c ∈ name.toList, isPlain c = true) :
    ∀ c ∈ written names, isPlain c = true := by
  induction names with
  | nil => simp [written, Text.joinWith]
  | cons name names ih =>
    obtain ⟨hname, hnames⟩ := List.forall_mem_cons.mp h
    by_cases hne : names = []
    · rw [hne]
      exact hname
    · rw [written_cons hne, List.forall_mem_append]
      exact ⟨hname, List.forall_mem_cons.mpr ⟨rfl, ih hnames⟩⟩

theorem segments_written {names : List String} (hne : names ≠ [])
    (h : ∀ name ∈ names, ∀ c ∈ name.toList, isPlain c = true ∧ c ≠ '/') : segments (written names) = names := by
  induction names with
  | nil => exact absurd rfl hne
  | cons name names ih =>
    obtain ⟨hname, hnames⟩ := List.forall_mem_cons.mp h
    have hsegment : segments name.toList = [name] := by
      rw [segments_of_isPlain (fun c hc => (hname c hc).1) fun hc => (hname _ hc).2 rfl, String.ofList_toList]
    by_cases hnil : names = []
    · rw [hnil]
      exact hsegment
    · rw [written_cons hnil, segments_append, hsegment, ih hnil hnames]
      rfl

def isTrimmed (c : Char) : Bool := c.toNat ≤ 0x20

def isRead (c : Char) : Bool := c != '\t' && c != '\n' && c != '\r'

/-- What is read of an address: blanks at its ends are dropped, and line breaks and tabs everywhere. -/
def clean (cs : List Char) : List Char :=
  (((cs.dropWhile isTrimmed).reverse.dropWhile isTrimmed).reverse).filter isRead

def cleanStart (cs : List Char) : List Char := (cs.dropWhile isTrimmed).filter isRead

theorem parse?_eq (s : String) :
    parse? s = match cutFirst ':' (clean s.toList) with
      | none => none
      | some (scheme, rest) =>
        let scheme := String.ofList (scheme.map Char.toLower)
        if scheme == "http" || scheme == "https" then parseRest scheme rest else none := rfl

theorem isTrimmed_of_isPlain {c : Char} (h : isPlain c = true) : isTrimmed c = false := by
  have hall : ∀ n ≤ 0x20, isPlain (Char.ofNat n) = false := by decide
  rw [isTrimmed, decide_eq_false_iff_not]
  intro hle
  have hc := hall c.toNat hle
  rw [Char.ofNat_toNat, h] at hc
  cases hc

theorem isRead_of_isPlain {c : Char} (h : isPlain c = true) : isRead c = true := by
  simp only [isRead, Bool.and_eq_true, bne_iff_ne]
  exact ⟨⟨ne_of_isPlain h (by decide), ne_of_isPlain h (by decide)⟩, ne_of_isPlain h (by decide)⟩

theorem clean_append {tail : List Char} (hne : tail ≠ []) (h : ∀ c ∈ tail, isPlain c = true) (cs : List Char) :
    clean (cs ++ tail) = cleanStart cs ++ tail := by
  obtain ⟨first, after, rfl⟩ := List.exists_cons_of_ne_nil hne
  have hfirst := isTrimmed_of_isPlain (h first List.mem_cons_self)
  obtain ⟨last, before, hreverse⟩ := List.exists_cons_of_ne_nil (List.reverse_ne_nil_iff.mpr hne)
  have hmem : last ∈ first :: after := by
    rw [← List.mem_reverse, hreverse]
    exact List.mem_cons_self
  have hlast : ¬ isTrimmed last = true := by
    rw [isTrimmed_of_isPlain (h last hmem)]
    exact Bool.false_ne_true
  have hread : (first :: after).filter isRead = first :: after :=
    List.filter_eq_self.mpr fun c hc => isRead_of_isPlain (h c hc)
  calc clean (cs ++ first :: after)
    _ = ((((cs.dropWhile isTrimmed) ++ first :: after).reverse.dropWhile isTrimmed).reverse).filter isRead := by
      rw [clean, Text.dropWhile_append_cons hfirst]
    _ = ((cs.dropWhile isTrimmed) ++ first :: after).filter isRead := by
      rw [List.reverse_append, hreverse, List.cons_append, List.dropWhile_cons_of_neg hlast,
        ← List.cons_append, ← hreverse, ← List.reverse_append, List.reverse_reverse]
    _ = cleanStart cs ++ first :: after := by
      rw [List.filter_append, hread, cleanStart]

/-- The URL that a scheme and what stands between its slashes and the path make with a path. -/
def site? (scheme : String) (authority : List Char) (path : List String) : Option Url :=
  let parts := splitUserInfo authority
  let place := splitPort false parts.2
  if place.1.isEmpty then none
  else
    (Host.parse? place.1).bind fun host => (parsePort scheme place.2).bind fun port =>
      some ⟨scheme, parts.1.bind parseUserInfo, host, port, path, none, none⟩

variable {scheme : String} {authority rest tail : List Char} {path : List String} {b : Url}

/-- The path is the only part of a URL that depends on the path. -/
theorem site?_eq_some (h : site? scheme authority path = some b) :
    b.path = path ∧ b.query = none ∧ b.fragment = none ∧
      ∀ path', site? scheme authority path' = some { b with path := path' } := by
  unfold site? at h ⊢
  dsimp only at h ⊢
  split at h
  case isTrue => cases h
  case isFalse hhost =>
    obtain ⟨host, hparsed, h⟩ := Option.bind_eq_some_iff.mp h
    obtain ⟨port, hport, heq⟩ := Option.bind_eq_some_iff.mp h
    cases heq
    refine ⟨rfl, rfl, rfl, fun path' => ?_⟩
    rw [if_neg hhost, hparsed, Option.bind_some, hport, Option.bind_some]

theorem parseRest_eq (hquery : '?' ∉ rest) (hfragment : '#' ∉ rest) :
    parseRest scheme rest = site? scheme ((rest.dropWhile isSlash).takeWhile fun c => !endsAuthority c)
      (parsePath (((rest.dropWhile isSlash).dropWhile fun c => !endsAuthority c).drop 1)) := by
  have hno {c : Char} (hc : c ∉ rest) : c ∉ (rest.dropWhile isSlash).dropWhile fun c => !endsAuthority c := by
    intro hmem
    exact hc ((List.dropWhile_sublist _).subset ((List.dropWhile_sublist _).subset hmem))
  rw [parseRest, site?]
  dsimp only
  rw [Text.cutFirst_eq_none.mpr (hno hfragment)]
  dsimp only
  rw [Text.cutFirst_eq_none.mpr (hno hquery)]
  rfl

theorem parseRest_congr {cs ds : List Char} (h : cs.dropWhile isSlash = ds.dropWhile isSlash) :
    parseRest scheme cs = parseRest scheme ds := by
  simp only [parseRest, h]

/-- Only slashes make no host, and what follows them would be taken for one. -/
theorem parseRest_slashes (hslashes : rest.dropWhile isSlash = []) : parseRest scheme (rest ++ ['/']) = none := by
  have hall : (rest ++ ['/']).dropWhile isSlash = [] := by
    rw [List.dropWhile_append, hslashes]
    rfl
  exact parseRest_congr (hall.trans List.dropWhile_nil.symm)

theorem parseRest_append (hquery : '?' ∉ rest) (hfragment : '#' ∉ rest) (hhost : rest.dropWhile isSlash ≠ [])
    (htail : ∀ c ∈ tail, isPlain c = true) :
    parseRest scheme (rest ++ '/' :: tail) =
      site? scheme ((rest.dropWhile isSlash).takeWhile fun c => !endsAuthority c)
        (resolve (directory ((rest.dropWhile isSlash).dropWhile fun c => !endsAuthority c)) (segments tail)) := by
  have hslash : (!endsAuthority '/') = false := rfl
  have hdrop : (rest ++ '/' :: tail).dropWhile isSlash = rest.dropWhile isSlash ++ '/' :: tail := by
    rw [List.dropWhile_append, if_neg]
    rwa [List.isEmpty_iff]
  have hno {c : Char} (hc : c ∉ rest) (hplain : isPlain c = false) (hne : c ≠ '/') : c ∉ rest ++ '/' :: tail := by
    simp [hc, hne, not_mem_of_isPlain htail hplain]
  rw [parseRest_eq (hno hquery rfl (by decide)) (hno hfragment rfl (by decide)), hdrop,
    Text.takeWhile_append_cons hslash, Text.dropWhile_append_cons hslash, parsePath_append]

theorem parse?_append {base : String} (htail : ∀ c ∈ tail, isPlain c = true) :
    parse? (base ++ String.ofList ('/' :: tail)) = match cutFirst ':' (cleanStart base.toList) with
      | none => none
      | some (scheme, rest) =>
        let scheme := String.ofList (scheme.map Char.toLower)
        if scheme == "http" || scheme == "https" then parseRest scheme (rest ++ '/' :: tail) else none := by
  have hplain : ∀ c ∈ '/' :: tail, isPlain c = true := List.forall_mem_cons.mpr ⟨rfl, htail⟩
  have hcolon : ':' ∉ '/' :: tail := not_mem_of_isPlain hplain rfl
  rw [parse?_eq, String.toList_append, String.toList_ofList, clean_append (List.cons_ne_nil _ _) hplain,
    Text.cutFirst_append_right hcolon]
  cases cutFirst ':' (cleanStart base.toList) <;> rfl

/-- Behind a base URL without a known scheme nothing is read; otherwise the rest of it decides. -/
theorem exists_rest (base : String) :
    (∀ tail, (∀ c ∈ tail, isPlain c = true) → parse? (base ++ String.ofList ('/' :: tail)) = none) ∨
    ∃ scheme rest, (∀ c, c ∉ base.toList → c ∉ rest) ∧ ∀ tail, (∀ c ∈ tail, isPlain c = true) →
      parse? (base ++ String.ofList ('/' :: tail)) = parseRest scheme (rest ++ '/' :: tail) := by
  cases hcut : cutFirst ':' (cleanStart base.toList) with
  | none =>
    left
    intro tail htail
    rw [parse?_append htail, hcut]
  | some parts =>
    obtain ⟨scheme, rest⟩ := parts
    by_cases hscheme : (String.ofList (scheme.map Char.toLower) == "http" ||
        String.ofList (scheme.map Char.toLower) == "https") = true
    · refine .inr ⟨String.ofList (scheme.map Char.toLower), rest, fun c hc hmem => ?_, fun tail htail => ?_⟩
      · have hstart : c ∈ cleanStart base.toList := by
          rw [(Text.cutFirst_eq_some.mp hcut).1]
          simp [hmem]
        exact hc ((List.dropWhile_sublist _).subset (List.mem_of_mem_filter hstart))
      · rw [parse?_append htail, hcut]
        exact if_pos hscheme
    · left
      intro tail htail
      rw [parse?_append htail, hcut]
      exact if_neg hscheme

theorem forall_isPlain_nil : ∀ c ∈ ([] : List Char), isPlain c = true := by simp

/-- An address that begins with a base URL is the base URL but for its path. -/
theorem exists_directory {base : String} (hquery : '?' ∉ base.toList) (hfragment : '#' ∉ base.toList)
    (hbase : parse? (base ++ "/") = some b) :
    b.query = none ∧ b.fragment = none ∧ ∃ done, b.path = done.reverse ++ [""] ∧
      ∀ tail, (∀ c ∈ tail, isPlain c = true) →
        parse? (base ++ String.ofList ('/' :: tail)) = some { b with path := resolve done (segments tail) } := by
  rcases exists_rest base with hnone | ⟨scheme, rest, hno, hread⟩
  · cases hbase.symm.trans (hnone [] forall_isPlain_nil)
  · have hroot := (hread [] forall_isPlain_nil).symm.trans hbase
    have hhost : rest.dropWhile isSlash ≠ [] := by
      intro hslashes
      cases (parseRest_slashes hslashes).symm.trans hroot
    rw [parseRest_append (hno _ hquery) (hno _ hfragment) hhost forall_isPlain_nil] at hroot
    obtain ⟨hpath, hnoQuery, hnoFragment, hsame⟩ := site?_eq_some hroot
    have hempty : ∀ s ∈ segments [], IsName s := by decide
    rw [resolve_names (segments_ne_nil []) hempty] at hpath
    refine ⟨hnoQuery, hnoFragment, _, hpath, fun tail htail => ?_⟩
    rw [hread tail htail, parseRest_append (hno _ hquery) (hno _ hfragment) hhost htail, hsame]

/-- A base URL without a host makes one of what follows it. -/
theorem exists_parseRest {base : String} {u : Url} (hquery : '?' ∉ base.toList) (hfragment : '#' ∉ base.toList)
    (hbase : parse? (base ++ "/") = none) (htail : ∀ c ∈ tail, isPlain c = true)
    (h : parse? (base ++ String.ofList ('/' :: tail)) = some u) : ∃ scheme, parseRest scheme tail = some u := by
  rcases exists_rest base with hnone | ⟨scheme, rest, hno, hread⟩
  · cases h.symm.trans (hnone tail htail)
  · rw [hread tail htail] at h
    by_cases hhost : rest.dropWhile isSlash = []
    · have hdrop : (rest ++ '/' :: tail).dropWhile isSlash = tail.dropWhile isSlash := by
        rw [List.dropWhile_append, hhost]
        rfl
      exact ⟨scheme, (parseRest_congr hdrop).symm.trans h⟩
    · -- otherwise the host is read from the base URL, and it is none whatever follows
      have hroot := (hread [] forall_isPlain_nil).symm.trans hbase
      rw [parseRest_append (hno _ hquery) (hno _ hfragment) hhost forall_isPlain_nil] at hroot
      rw [parseRest_append (hno _ hquery) (hno _ hfragment) hhost htail] at h
      rw [(site?_eq_some h).2.2.2] at hroot
      cases hroot

end Courier.Http.Url
