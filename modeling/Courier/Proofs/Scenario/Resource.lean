import Courier.Proofs.Http.Path
import Courier.Scenario.Calls

/-! Where the request for the location of an order goes. The encoded order is a segment of its own, and the
URL is left with it, unless the segment means a directory: the text of one dot or of two dots stays a dot
segment when it is encoded, and is resolved. Such an order leads to an address of its own all the same. -/

namespace Courier.Scenario

open Http (Request Url)
open Http.Host (percentDecode decodeUtf8?)
open Http.Url (descend isDoubleDot isSingleDot isPlain IsName resolve segments written parse? parseRest)
open Text.Percent (decode? encode)

theorem toNat_toLower (c : Char) :
    c.toLower = c ∨ 65 ≤ c.toNat ∧ c.toNat ≤ 90 ∧ c.toLower.toNat = c.toNat + 32 := by
  by_cases h : c.val ≥ 'A'.val ∧ c.val ≤ 'Z'.val
  · have hlow : 65 ≤ c.toNat := UInt32.le_iff_toNat_le.mp h.1
    have hhigh : c.toNat ≤ 90 := UInt32.le_iff_toNat_le.mp h.2
    have hsmall : c.toNat + 32 < 2 ^ 32 := by omega
    have hval : c.toLower.val = c.val + 32 := congrArg Char.val (dif_pos h)
    refine .inr ⟨hlow, hhigh, ?_⟩
    calc c.toLower.toNat
      _ = (c.val + 32).toNat := congrArg UInt32.toNat hval
      _ = c.toNat + 32 := (UInt32.toNat_add _ _).trans (Nat.mod_eq_of_lt hsmall)
  · exact .inl (dif_neg h)

theorem eq_of_toLower {c d : Char} (h : c.toLower = d) (hd : d.isLower = false) : c = d := by
  rcases toNat_toLower c with hsame | ⟨hlow, hhigh, hnat⟩
  · exact hsame.symm.trans h
  · have hlower : ∀ n ≤ 90, 65 ≤ n → (Char.ofNat (n + 32)).isLower = true := by decide
    have hd' := hlower c.toNat hhigh hlow
    rw [← hnat, h, Char.ofNat_toNat, hd] at hd'
    cases hd'

theorem e_of_toLower {c : Char} (h : c.toLower = 'e') : c = 'e' ∨ c = 'E' := by
  rcases toNat_toLower c with hsame | ⟨-, -, hnat⟩
  · exact .inl (hsame.symm.trans h)
  · right
    have hc : c.toNat = 'E'.toNat := by
      have he : c.toLower.toNat = 101 := congrArg Char.toNat h
      have hE : 'E'.toNat = 69 := rfl
      omega
    exact Char.toNat_inj.mp hc

/-- How a segment may write a dot, but for the case of its letters. -/
def dots : List (List Char) := [['.'], ['%', '2', 'e']]

/-- A dot is read where a dot or its triple is written, in either case. -/
theorem percentDecode_dot {cs form rest : List Char} (hform : form ∈ dots)
    (h : cs.map Char.toLower = form ++ rest) :
    ∃ left, left.map Char.toLower = rest ∧ percentDecode cs = 46 :: percentDecode left := by
  rcases List.mem_pair.mp hform with rfl | rfl
  · obtain ⟨dot, left, rfl, hdot, hleft⟩ := List.map_eq_cons_iff.mp h
    obtain rfl := eq_of_toLower hdot rfl
    exact ⟨left, hleft, Text.Percent.percentDecode_cons (by decide)⟩
  · obtain ⟨percent, _, rfl, hpercent, h⟩ := List.map_eq_cons_iff.mp h
    obtain ⟨two, _, rfl, htwo, h⟩ := List.map_eq_cons_iff.mp h
    obtain ⟨e, left, rfl, he, hleft⟩ := List.map_eq_cons_iff.mp h
    obtain rfl := eq_of_toLower hpercent rfl
    obtain rfl := eq_of_toLower htwo rfl
    refine ⟨left, hleft, ?_⟩
    rcases e_of_toLower he with rfl | rfl <;> rw [percentDecode] <;> rfl

theorem decode?_of_isSingleDot {segment : String} (h : isSingleDot segment = true) : decode? segment = some "." := by
  have hform : ∃ form ∈ dots, segment.toList.map Char.toLower = form ++ [] := by
    rcases Http.Url.isSingleDot_iff.mp h with h | h
    · exact ⟨['.'], by decide, by rw [h]; decide⟩
    · exact ⟨['%', '2', 'e'], by decide, h⟩
  obtain ⟨form, hmem, h⟩ := hform
  obtain ⟨left, hleft, hdecode⟩ := percentDecode_dot hmem h
  obtain rfl := List.map_eq_nil_iff.mp hleft
  rw [decode?, hdecode, percentDecode]
  exact Text.Percent.decodeUtf8?_utf8 "."

theorem decode?_of_isDoubleDot {segment : String} (h : isDoubleDot segment = true) :
    decode? segment = some ".." := by
  have hform : ∃ first ∈ dots, ∃ second ∈ dots,
      segment.toList.map Char.toLower = first ++ second := by
    have hsplit : ∀ text ∈ ["..".toList, ".%2e".toList, "%2e.".toList, "%2e%2e".toList],
        ∃ first ∈ dots, ∃ second ∈ dots, text = first ++ second := by decide
    exact hsplit _ (Http.Url.isDoubleDot_iff.mp h)
  obtain ⟨first, hfirst, second, hsecond, h⟩ := hform
  obtain ⟨left, hleft, hdecode⟩ := percentDecode_dot hfirst h
  rw [← List.append_nil second] at hleft
  obtain ⟨left, hleft, hdecode'⟩ := percentDecode_dot hsecond hleft
  obtain rfl := List.map_eq_nil_iff.mp hleft
  rw [decode?, hdecode, hdecode', percentDecode]
  exact Text.Percent.decodeUtf8?_utf8 ".."

theorem isName_encode {order : String} (hdot : order ≠ ".") (hdots : order ≠ "..") : IsName (encode order) := by
  rw [IsName, ← Bool.not_eq_true, ← Bool.not_eq_true]
  constructor
  · intro h
    exact hdots (Option.some.inj ((Text.Percent.decode?_encode order).symm.trans (decode?_of_isDoubleDot h)))
  · intro h
    exact hdot (Option.some.inj ((Text.Percent.decode?_encode order).symm.trans (decode?_of_isSingleDot h)))

variable {base order : String} {done : List String} {u : Url} {r : Request}

/-- The segments that an order adds to the path, before dots are resolved. -/
def steps (order : String) : List String := ["orders", encode order, "rider-location"]

theorem resolve_steps : resolve done (steps order) =
    (descend ("orders" :: done) (encode order)).reverse ++ ["rider-location"] := by
  have horders : IsName "orders" := by decide
  have hlocation : ∀ s ∈ ["rider-location"], IsName s := by decide
  have hsplit : steps order = ["orders", encode order] ++ ["rider-location"] := rfl
  rw [hsplit, Http.Url.resolve_append (List.cons_ne_nil _ _),
    Http.Url.resolve_names (List.cons_ne_nil _ _) hlocation, List.foldl_cons, Http.Url.descend_name horders]
  rfl

theorem resolve_own (hdot : order ≠ ".") (hdots : order ≠ "..") :
    resolve done (steps order) = done.reverse ++ ["orders", encode order, "rider-location"] := by
  rw [resolve_steps, Http.Url.descend_name (isName_encode hdot hdots)]
  simp

theorem resolve_dot : resolve done (steps ".") = done.reverse ++ ["orders", "rider-location"] := by
  have hencode : encode "." = "%2E" := by decide
  have hdouble : ¬ isDoubleDot "%2E" = true := by
    rw [Http.Url.isDoubleDot_iff]
    decide
  have hsingle : isSingleDot "%2E" = true := Http.Url.isSingleDot_iff.mpr (by decide)
  rw [resolve_steps, hencode, descend, if_neg hdouble, if_pos hsingle]
  simp

theorem resolve_dots : resolve done (steps "..") = done.reverse ++ ["rider-location"] := by
  have hencode : encode ".." = "%2E%2E" := by decide
  have hdouble : isDoubleDot "%2E%2E" = true := Http.Url.isDoubleDot_iff.mpr (by decide)
  rw [resolve_steps, hencode, descend, if_pos hdouble]
  rfl

def readOrder : List String → Option String
  | [_, segment, _] => decode? segment
  | [_, _] => some "."
  | _ => some ".."

theorem readOrder_steps : readOrder ((resolve done (steps order)).drop done.length) = some order := by
  have hdrop (behind : List String) : (done.reverse ++ behind).drop done.length = behind := by
    rw [← List.length_reverse, List.drop_left]
  by_cases hdot : order = "."
  · rw [hdot, resolve_dot, hdrop]
    rfl
  · by_cases hdots : order = ".."
    · rw [hdots, resolve_dots, hdrop]
      rfl
    · rw [resolve_own hdot hdots, hdrop]
      exact Text.Percent.decode?_encode order

theorem resolve_steps_injective {other : String} (h : resolve done (steps order) = resolve done (steps other)) :
    order = other := by
  have hread : readOrder ((resolve done (steps order)).drop done.length) = some other := by
    rw [h, readOrder_steps]
  exact Option.some.inj (readOrder_steps.symm.trans hread)

/-- What follows the base URL and a slash in the address of a request for the location of an order. -/
def tail (order : String) : List Char := written ("v1" :: steps order)

theorem isPlain_names : ∀ name ∈ "v1" :: steps order, ∀ c ∈ name.toList, isPlain c = true ∧ c ≠ '/' := by
  have hall {name : String} (h : (name.toList.all fun c => isPlain c && c != '/') = true) :
      ∀ c ∈ name.toList, isPlain c = true ∧ c ≠ '/' := by
    simpa only [List.all_eq_true, Bool.and_eq_true, bne_iff_ne] using h
  have horder : ∀ c ∈ (encode order).toList, isPlain c = true ∧ c ≠ '/' := by
    intro c hc
    rcases Text.Percent.of_mem_encode hc with h | rfl
    · exact ⟨by simp [isPlain, h], by rintro rfl; cases h⟩
    · decide
  simp only [steps, List.forall_mem_cons]
  exact ⟨hall (by decide), hall (by decide), horder, hall (by decide), by simp⟩

theorem isPlain_tail : ∀ c ∈ tail order, isPlain c = true :=
  Http.Url.isPlain_written fun name hname c hc => (isPlain_names name hname c hc).1

theorem segments_tail : segments (tail order) = "v1" :: steps order :=
  Http.Url.segments_written (List.cons_ne_nil _ _) isPlain_names

theorem segments_steps : segments (written (steps order)) = steps order :=
  Http.Url.segments_written (List.cons_ne_nil _ _) fun name hname =>
    isPlain_names name (List.mem_cons_of_mem _ hname)

theorem tail_eq : tail order = "v1".toList ++ '/' :: written (steps order) :=
  Http.Url.written_cons (List.cons_ne_nil _ _) "v1"

theorem locationRequest_eq : locationRequest base order =
    match parse? (base ++ String.ofList ('/' :: tail order)) with
    | none => .error (.httpRequest .unbuildable)
    | some u => .ok ⟨.get, Url.addPairs { u with userInfo := none } [],
        ((u.userInfo.bind Request.basicAuthorization?).map fun v =>
          (⟨"authorization", v, true⟩ : Http.Header)).toList, none⟩ := by
  have haddress : base ++ ("/v1/orders/" ++ encode order ++ "/rider-location") =
      base ++ String.ofList ('/' :: tail order) := by
    rw [← String.toList_inj]
    simp [tail, written, steps, Text.joinWith]
  rw [locationRequest, Request.get, haddress, Request.to?]
  cases parse? (base ++ String.ofList ('/' :: tail order)) <;> rfl

theorem exists_request (hparse : parse? (base ++ String.ofList ('/' :: tail order)) = some u)
    (hquery : u.query = none) : ∃ r, locationRequest base order = .ok r ∧ r.url = { u with userInfo := none } := by
  rw [locationRequest_eq, hparse]
  refine ⟨_, rfl, ?_⟩
  dsimp only [Url.addPairs]
  rw [hquery]
  rfl

theorem exists_parse (h : locationRequest base order = .ok r) :
    ∃ u, parse? (base ++ String.ofList ('/' :: tail order)) = some u ∧
      (u.query = none → r.url = { u with userInfo := none }) := by
  cases hparse : parse? (base ++ String.ofList ('/' :: tail order)) with
  | none =>
    rw [locationRequest_eq, hparse] at h
    cases h
  | some u =>
    refine ⟨u, rfl, fun hquery => ?_⟩
    obtain ⟨r', hr', hurl⟩ := exists_request hparse hquery
    cases h.symm.trans hr'
    exact hurl

/-- A base URL that is one leads every order to a path behind its own. -/
theorem exists_site (hquery : '?' ∉ base.toList) (hfragment : '#' ∉ base.toList) {b : Url}
    (hbase : parse? (base ++ "/") = some b) : ∃ done, b.path = done.reverse ++ [""] ∧
      ∀ order, ∃ r, locationRequest base order = .ok r ∧
        r.url = { b with userInfo := none, path := resolve ("v1" :: done) (steps order) } := by
  obtain ⟨hnoQuery, -, done, hpath, hparse⟩ := Http.Url.exists_directory hquery hfragment hbase
  refine ⟨done, hpath, fun order => ?_⟩
  have hver : IsName "v1" := by decide
  have hsteps : steps order ≠ [] := List.cons_ne_nil _ _
  have hresolve : resolve done (segments (tail order)) = resolve ("v1" :: done) (steps order) := by
    rw [segments_tail, Http.Url.resolve_cons hsteps, Http.Url.descend_name hver]
  obtain ⟨r, hr, hurl⟩ := exists_request (hparse (tail order) isPlain_tail) hnoQuery
  exact ⟨r, hr, by rw [hurl, hresolve]⟩

theorem site?_version (scheme : String) (path : List String) :
    Http.Url.site? scheme ['v', '1'] path = some ⟨scheme, none, "v1", none, path, none, none⟩ := by
  have huser : Http.Url.splitUserInfo ['v', '1'] = (none, ['v', '1']) := by decide
  have hport : Http.Url.splitPort false ['v', '1'] = (['v', '1'], none) := by decide
  have hhost : Http.Host.parse? ['v', '1'] = some "v1" := by decide +kernel
  rw [Http.Url.site?, huser, hport]
  dsimp only
  rw [hhost]
  rfl

/-- A base URL without a host leads to the host `v1`, if anywhere. -/
theorem of_hostless (hquery : '?' ∉ base.toList) (hfragment : '#' ∉ base.toList)
    (hbase : parse? (base ++ "/") = none) (h : locationRequest base order = .ok r) :
    r.url.host = "v1" ∧ r.url.path = resolve [] (steps order) := by
  obtain ⟨u, hparse, hurl⟩ := exists_parse h
  obtain ⟨scheme, hrest⟩ := Http.Url.exists_parseRest hquery hfragment hbase isPlain_tail hparse
  have hsite : parseRest scheme (tail order) =
      some ⟨scheme, none, "v1", none, resolve [] (steps order), none, none⟩ := by
    have hslash : (!Http.Url.endsAuthority '/') = false := rfl
    have hdrop : (tail order).dropWhile Http.Url.isSlash = tail order := rfl
    have hver : "v1".toList.takeWhile (fun c => !Http.Url.endsAuthority c) = ['v', '1'] := by decide
    have hrest : "v1".toList.dropWhile (fun c => !Http.Url.endsAuthority c) = [] := by decide
    rw [Http.Url.parseRest_eq (Http.Url.not_mem_of_isPlain isPlain_tail rfl)
      (Http.Url.not_mem_of_isPlain isPlain_tail rfl), hdrop, tail_eq, Text.takeWhile_append_cons hslash,
      Text.dropWhile_append_cons hslash, hver, hrest, List.nil_append, List.drop_succ_cons, List.drop_zero,
      site?_version, Http.Url.parsePath_eq, segments_steps]
  cases hsite.symm.trans hrest
  rw [hurl rfl]
  exact ⟨rfl, rfl⟩

/-- Whether a URL is a base URL's own for the location of an order: the base URL with one segment behind it
for the version, one for orders, one that is read as the order, and one for its location. -/
def IsOwn (base order : String) (u : Url) : Prop :=
  ∃ b dir segment, parse? (base ++ "/") = some b ∧ b.path = dir ++ [""] ∧ decode? segment = some order ∧
    u = { b with userInfo := none, path := dir ++ ["v1", "orders", segment, "rider-location"] }

theorem isOwn_iff (hbase : parse? (base ++ "/") = some u) (hpath : u.path = done.reverse ++ [""]) :
    IsOwn base order { u with userInfo := none, path := resolve ("v1" :: done) (steps order) } ↔
      order ≠ "." ∧ order ≠ ".." := by
  constructor
  · rintro ⟨b, dir, segment, hb, hdir, -, heq⟩
    obtain rfl := Option.some.inj (hbase.symm.trans hb)
    obtain rfl := List.append_cancel_right (hdir.symm.trans hpath)
    -- an order of dots leads to fewer segments
    have hlength := congrArg (fun u => u.path.length) heq
    constructor
    · rintro rfl
      simp [resolve_dot] at hlength
    · rintro rfl
      simp [resolve_dots] at hlength
  · rintro ⟨hdot, hdots⟩
    refine ⟨u, done.reverse, encode order, hbase, hpath, Text.Percent.decode?_encode order, ?_⟩
    rw [resolve_own hdot hdots]
    simp

/-- An order has a URL of its own unless it is one or two dots, and no two orders share one. What is sent with
a base URL that is none goes to the host `v1`. -/
theorem location_own_iff (hquery : '?' ∉ base.toList) (hfragment : '#' ∉ base.toList) (order : String) :
    ((parse? (base ++ "/")).isSome → ∃ r, locationRequest base order = .ok r) ∧
    ∀ r, locationRequest base order = .ok r →
      (IsOwn base order r.url ↔ (parse? (base ++ "/")).isSome ∧ order ≠ "." ∧ order ≠ "..") ∧
      (∀ b dir, parse? (base ++ "/") = some b → b.path = dir ++ [""] →
        (order = "." → r.url = { b with userInfo := none, path := dir ++ ["v1", "orders", "rider-location"] }) ∧
        (order = ".." → r.url = { b with userInfo := none, path := dir ++ ["v1", "rider-location"] })) ∧
      (parse? (base ++ "/") = none → r.url.host = "v1") ∧
      ∀ other r', locationRequest base other = .ok r' → r'.url = r.url → other = order := by
  cases hbase : parse? (base ++ "/") with
  | none =>
    refine ⟨?_, fun r hr => ⟨⟨?_, ?_⟩, ?_, ?_, ?_⟩⟩
    · intro h
      cases h
    · rintro ⟨b, -, -, hb, -⟩
      cases hbase.symm.trans hb
    · rintro ⟨h, -⟩
      cases h
    · rintro b dir h
      cases h
    · intro _
      exact (of_hostless hquery hfragment hbase hr).1
    · intro other r' hr' hurl
      have hpath := congrArg Url.path hurl
      rw [(of_hostless hquery hfragment hbase hr).2, (of_hostless hquery hfragment hbase hr').2] at hpath
      exact resolve_steps_injective hpath
  | some b =>
    obtain ⟨done, hpath, hrequest⟩ := exists_site hquery hfragment hbase
    have hurl {order r} (hr : locationRequest base order = .ok r) :
        r.url = { b with userInfo := none, path := resolve ("v1" :: done) (steps order) } := by
      obtain ⟨r', hr', hurl⟩ := hrequest order
      cases hr.symm.trans hr'
      exact hurl
    refine ⟨fun _ => (hrequest order).imp fun r hr => hr.1, fun r hr => ⟨?_, ?_, ?_, ?_⟩⟩
    · rw [hurl hr, isOwn_iff hbase hpath]
      simp
    · intro b' dir hb' hdir
      obtain rfl := Option.some.inj hb'
      obtain rfl := List.append_cancel_right (hdir.symm.trans hpath)
      refine ⟨fun hdot => ?_, fun hdots => ?_⟩
      · rw [hurl hr, hdot, resolve_dot]
        simp
      · rw [hurl hr, hdots, resolve_dots]
        simp
    · intro h
      cases h
    · intro other r' hr' heq
      have hpaths := congrArg Url.path heq
      rw [hurl hr, hurl hr'] at hpaths
      exact resolve_steps_injective hpaths

theorem location_own_slashes : '?' ∉ "http://h:8/a/./b".toList ∧ '#' ∉ "http://h:8/a/./b".toList ∧
    ∃ r, locationRequest "http://h:8/a/./b" "é/../%2E?" = .ok r ∧ IsOwn "http://h:8/a/./b" "é/../%2E?" r.url := by
  have hquery : '?' ∉ "http://h:8/a/./b".toList := by decide
  have hfragment : '#' ∉ "http://h:8/a/./b".toList := by decide
  have hbase : (parse? ("http://h:8/a/./b" ++ "/")).isSome := by decide +kernel
  obtain ⟨hsent, hown⟩ := location_own_iff hquery hfragment "é/../%2E?"
  obtain ⟨r, hr⟩ := hsent hbase
  exact ⟨hquery, hfragment, r, hr, (hown r hr).1.mpr ⟨hbase, by decide, by decide⟩⟩

theorem dots_leave_orders : ∃ r, locationRequest "http://h" ".." = .ok r ∧ ¬ IsOwn "http://h" ".." r.url ∧
    r.url.path = ["v1", "rider-location"] := by
  have hbase : parse? ("http://h" ++ "/") = some ⟨"http", none, "h", none, [""], none, none⟩ := by decide +kernel
  obtain ⟨done, hpath, hrequest⟩ := exists_site (by decide) (by decide) hbase
  obtain ⟨r, hr, hurl⟩ := hrequest ".."
  obtain rfl : done = [] := by
    have hlength := congrArg List.length hpath
    simpa using hlength
  refine ⟨r, hr, ?_, ?_⟩
  · rw [hurl, isOwn_iff hbase hpath]
    simp
  · rw [hurl, resolve_dots]
    rfl

end Courier.Scenario
