import ViewerBridge.Options.Document
import ViewerBridge.Proofs.Json.Scanning
/-!
# What an options document gives

A document is an object of members, with blanks wherever JSON allows them. A member whose key is known
gives a value of its type, and any other member gives nothing, whatever its value. The options are the
defaults with the given values in their places, in whichever order they come.
-/
namespace ViewerBridge
open Json

inductive OptionValue where
  | path (directory : Option String)
  | viewerBinary (name : String)
  | style (name : String)
  | timeout (t : Timeout) (milliseconds : Nat)
  deriving DecidableEq, Repr

namespace OptionValue

def key : OptionValue → OptionKey
  | path _ => .path
  | viewerBinary _ => .viewerBinary
  | style _ => .style
  | timeout t _ => .timeout t

inductive Written : OptionValue → List Char → Prop where
  | null : Written (path none) ['n', 'u', 'l', 'l']
  | directory {raw : List Char} {s : String} (spells : Spells raw s.toList) :
    Written (path (some s)) ('"' :: (raw ++ ['"']))
  | viewerBinary {raw : List Char} {s : String} (spells : Spells raw s.toList) :
    Written (viewerBinary s) ('"' :: (raw ++ ['"']))
  | style {raw : List Char} {s : String} (spells : Spells raw s.toList) :
    Written (style s) ('"' :: (raw ++ ['"']))
  | timeout {ds : List Char} {n : Nat} (t : Timeout) (whole : IsWhole ds)
    (reads : Nat.ofDigitChars 10 ds 0 = n) (small : n < UInt64.size) : Written (timeout t n) ds

end OptionValue

namespace OptionKey

theorem ofName?_name (key : OptionKey) : ofName? key.name = some key := by
  rcases key with _ | _ | _ | t
  · rfl
  · rfl
  · rfl
  · cases t <;> rfl

theorem ofName?_eq_none {name : String} (h : ∀ key : OptionKey, key.name ≠ name) :
    ofName? name = none :=
  List.find?_eq_none.mpr fun key _ => by simpa using h key

end OptionKey

namespace Options

def value (o : Options) : OptionKey → OptionValue
  | .path => .path o.path
  | .viewerBinary => .viewerBinary o.viewerBinary
  | .style => .style o.style
  | .timeout t => .timeout t (o.timeout t)

def put (o : Options) : OptionValue → Options
  | .path directory => { o with path := directory }
  | .viewerBinary name => { o with viewerBinary := name }
  | .style name => { o with style := name }
  | .timeout .accept n => { o with acceptTimeout := n }
  | .timeout .request n => { o with requestTimeout := n }
  | .timeout .eventLoop n => { o with eventLoopTimeout := n }

theorem value_put_self (o : Options) (v : OptionValue) : (o.put v).value v.key = v := by
  rcases v with _ | _ | _ | ⟨t, n⟩
  · rfl
  · rfl
  · rfl
  · cases t <;> rfl

theorem value_put_ne (o : Options) {v : OptionValue} {key : OptionKey} (h : v.key ≠ key) :
    (o.put v).value key = o.value key := by
  rcases v with _ | _ | _ | ⟨t, n⟩
  case timeout =>
    rcases key with _ | _ | _ | t'
    case timeout => cases t <;> cases t' <;> first | rfl | exact absurd rfl h
    all_goals cases t <;> rfl
  all_goals rcases key with _ | _ | _ | t' <;> first | rfl | exact absurd rfl h

theorem eq_of_value {o o' : Options} (h : ∀ key, o.value key = o'.value key) : o = o' := by
  have hp := h .path
  have hb := h .viewerBinary
  have hs := h .style
  have ha := h (.timeout .accept)
  have hr := h (.timeout .request)
  have he := h (.timeout .eventLoop)
  cases o
  cases o'
  simp only [value, timeout, OptionValue.path.injEq, OptionValue.viewerBinary.injEq,
    OptionValue.style.injEq, OptionValue.timeout.injEq, true_and] at hp hb hs ha hr he
  subst hp hb hs ha hr he
  rfl

theorem value_foldl_put_of_not_mem (o : Options) {vs : List OptionValue} {key : OptionKey}
    (h : key ∉ vs.map OptionValue.key) : (vs.foldl put o).value key = o.value key := by
  induction vs generalizing o with
  | nil => rfl
  | cons v vs ih =>
    rw [List.map_cons, List.mem_cons, not_or] at h
    rw [List.foldl_cons, ih (o.put v) h.2, value_put_ne o (Ne.symm h.1)]

theorem value_foldl_put_of_mem (o : Options) {vs : List OptionValue}
    (hn : (vs.map OptionValue.key).Nodup) {v : OptionValue} (hv : v ∈ vs) :
    (vs.foldl put o).value v.key = v := by
  induction vs generalizing o with
  | nil => cases hv
  | cons w vs ih =>
    rw [List.map_cons, List.nodup_cons] at hn
    rw [List.foldl_cons]
    rcases List.mem_cons.mp hv with rfl | hv
    · rw [value_foldl_put_of_not_mem _ hn.1, value_put_self]
    · exact ih (o.put w) hn.2 hv

theorem foldl_put_perm (o : Options) {vs ws : List OptionValue} (hp : ws.Perm vs)
    (hn : (vs.map OptionValue.key).Nodup) : ws.foldl put o = vs.foldl put o := by
  have hkeys : (ws.map OptionValue.key).Perm (vs.map OptionValue.key) := hp.map _
  refine eq_of_value fun key => ?_
  by_cases hkey : key ∈ vs.map OptionValue.key
  · obtain ⟨v, hv, rfl⟩ := List.mem_map.mp hkey
    rw [value_foldl_put_of_mem o hn hv,
      value_foldl_put_of_mem o (hkeys.nodup_iff.mpr hn) (hp.mem_iff.mpr hv)]
  · rw [value_foldl_put_of_not_mem o hkey,
      value_foldl_put_of_not_mem o (fun h => hkey (hkeys.mem_iff.mp h))]

/-- What a member gives by its name and the text of its value. -/
inductive Gives : String → List Char → Option OptionValue → Prop where
  | known {v : OptionValue} {text : List Char} (written : v.Written text) :
    Gives v.key.name text (some v)
  | unknown {name : String} {text : List Char} (unknown : ∀ key : OptionKey, key.name ≠ name)
    (value : Derives .value text) : Gives name text none

inductive Member : List Char → Option OptionValue → Prop where
  | parts {before raw between middle text after : List Char} {name : String}
    {given : Option OptionValue} (blanksBefore : Blanks before) (spells : Spells raw name.toList)
    (blanksBetween : Blanks between) (blanksMiddle : Blanks middle) (gives : Gives name text given)
    (blanksAfter : Blanks after) :
    Member (before ++ '"' :: (raw ++ '"' :: (between ++ ':' :: (middle ++ (text ++ after))))) given

inductive Members : List Char → List OptionValue → Prop where
  | last {m : List Char} {given : Option OptionValue} (member : Member m given) :
    Members m given.toList
  | next {m ms : List Char} {given : Option OptionValue} {vs : List OptionValue}
    (member : Member m given) (rest : Members ms vs) : Members (m ++ ',' :: ms) (given.toList ++ vs)

/-- A document with the values it gives, in their order. -/
inductive Document : List Char → List OptionValue → Prop where
  | empty {before ws after : List Char} (blanksBefore : Blanks before) (blanks : Blanks ws)
    (blanksAfter : Blanks after) : Document (before ++ '\x7b' :: (ws ++ '\x7d' :: after)) []
  | members {before ms after : List Char} {vs : List OptionValue} (blanksBefore : Blanks before)
    (members : Members ms vs) (blanksAfter : Blanks after) :
    Document (before ++ '\x7b' :: (ms ++ '\x7d' :: after)) vs

theorem Member.length_pos {m : List Char} {given : Option OptionValue} (hm : Member m given) :
    0 < m.length := by
  cases hm
  rw [List.length_append, List.length_cons]
  omega

inductive Lead : Bool → List Char → Prop where
  | first : Lead true []
  | comma {ws : List Char} (blanks : Blanks ws) : Lead false (ws ++ [','])

variable {o : Options} {m ms lead rest : List Char} {first : Bool} {seen : List OptionKey}
  {given : Option OptionValue} {vs : List OptionValue}

theorem nextKey_lead {ws raw : List Char} {name : String} (hl : Lead first lead) (hw : Blanks ws)
    (h : Spells raw name.toList) (rest : List Char) :
    Scan.nextKey first (lead ++ (ws ++ '"' :: (raw ++ '"' :: rest))) = .ok (some name, rest) := by
  cases hl with
  | first => exact Scan.nextKey_first hw h rest
  | comma blanks =>
    rw [List.append_assoc, List.singleton_append]
    exact Scan.nextKey_next blanks hw h rest

theorem readValue_written {v : OptionValue} {text ws : List Char} (h : v.Written text)
    (hw : Blanks ws) (hr : Ends rest) :
    o.readValue v.key (ws ++ (text ++ rest)) = .ok (o.put v, rest) := by
  cases h with
  | null => exact Scan.bind_of_ok (Scan.optionalText_null hw rest)
  | directory spells =>
    rw [List.cons_append, List.append_assoc, List.singleton_append]
    exact Scan.bind_of_ok (Scan.optionalText_spells hw spells rest)
  | viewerBinary spells =>
    rw [List.cons_append, List.append_assoc, List.singleton_append]
    exact Scan.bind_of_ok (Scan.text_spells hw spells rest)
  | style spells =>
    rw [List.cons_append, List.append_assoc, List.singleton_append]
    exact Scan.bind_of_ok (Scan.text_spells hw spells rest)
  | timeout t whole reads small =>
    subst reads
    have hread := Scan.natural_whole hw whole hr small
    cases t <;> exact Scan.bind_of_ok hread

theorem readMembers_member (hm : Member m given) (hl : Lead first lead) (hr : Ends rest)
    (hseen : ∀ v ∈ given, v.key ∉ seen) (limit : Nat) :
    ∃ after, Blanks after ∧
      readMembers (limit + 1) o seen first (lead ++ (m ++ rest)) =
        readMembers limit (given.toList.foldl put o) (given.toList.map OptionValue.key ++ seen)
          false (after ++ rest) := by
  obtain ⟨blanksBefore, spells, blanksBetween, blanksMiddle, gives, blanksAfter⟩ := hm
  rename_i before raw between middle text after name
  refine ⟨after, blanksAfter, ?_⟩
  have hends : Ends (after ++ rest) := hr.append blanksAfter
  simp only [List.append_assoc, List.cons_append]
  rw [readMembers, Scan.bind_of_ok (nextKey_lead hl blanksBefore spells _)]
  cases gives with
  | known written =>
    rename_i v
    have hnew : seen.contains v.key = false := by simpa using hseen v rfl
    simp only [OptionKey.ofName?_name, hnew, Bool.false_eq_true, if_false]
    rw [Scan.bind_of_ok (Scan.colon_blanks blanksBetween _),
      Scan.bind_of_ok (readValue_written written blanksMiddle hends)]
    rfl
  | unknown unknown value =>
    simp only [OptionKey.ofName?_eq_none unknown]
    rw [Scan.bind_of_ok (Scan.colon_blanks blanksBetween _),
      Scan.bind_of_ok (skipValue_derives blanksMiddle value hends)]
    rfl

theorem readMembers_members (hms : Members ms vs) (hl : Lead first lead)
    (hn : (vs.map OptionValue.key).Nodup) (hseen : ∀ v ∈ vs, v.key ∉ seen) {limit : Nat}
    (hlimit : ms.length < limit) :
    readMembers limit o seen first (lead ++ (ms ++ '\x7d' :: rest)) =
      .ok (vs.foldl put o, '\x7d' :: rest) := by
  induction hms generalizing limit o seen first lead with
  | last member =>
    have hlen := Member.length_pos member
    obtain ⟨limit, rfl⟩ : ∃ k, limit = k + 1 + 1 := ⟨limit - 2, by omega⟩
    obtain ⟨after, hafter, hread⟩ := readMembers_member (o := o) member hl
      (ends_cons (.inr (.inr rfl)) rest) (fun v hv => hseen v (Option.mem_toList.mpr hv)) (limit + 1)
    rw [hread, readMembers, Scan.bind_of_ok (Scan.nextKey_end false hafter rest)]
    rfl
  | next member more ih =>
    rename_i m ms given vs
    have hlen := member.length_pos
    rw [List.length_append, List.length_cons] at hlimit
    obtain ⟨limit, rfl⟩ : ∃ k, limit = k + 1 := ⟨limit - 1, by omega⟩
    rw [List.map_append, List.nodup_append] at hn
    obtain ⟨-, hnRest, hapart⟩ := hn
    have hmember : ∀ v ∈ given, v.key ∉ seen := fun v hv =>
      hseen v (List.mem_append_left _ (Option.mem_toList.mpr hv))
    obtain ⟨after, hafter, hread⟩ := readMembers_member (o := o) member hl
      (ends_cons (.inl rfl) (ms ++ '\x7d' :: rest)) hmember limit
    have hseenRest : ∀ v ∈ vs, v.key ∉ given.toList.map OptionValue.key ++ seen := by
      intro v hv hkey
      rcases List.mem_append.mp hkey with hkey | hkey
      · exact hapart _ hkey _ (List.mem_map_of_mem hv) rfl
      · exact hseen v (List.mem_append_right _ hv) hkey
    have hmore := ih (o := given.toList.foldl put o) (.comma hafter) hnRest hseenRest
      (show ms.length < limit by omega)
    rw [List.append_assoc, List.singleton_append] at hmore
    rw [List.append_assoc, List.cons_append, hread, hmore, List.foldl_append]

theorem scan_braces {before inside after : List Char} (hb : Blanks before)
    (hread : readMembers ((inside ++ '\x7d' :: after).length + 1) {} [] true
      (inside ++ '\x7d' :: after) = .ok (o, '\x7d' :: after)) :
    scan (before ++ '\x7b' :: (inside ++ '\x7d' :: after)) = .ok (o, after) := by
  have hclose : Scan.closeObject ('\x7d' :: after) = .ok ((), after) :=
    Scan.closeObject_blanks blanks_nil after
  rw [scan, Scan.bind_of_ok (Scan.peek_blanks hb rfl _)]
  simp only []
  rw [Scan.bind_of_ok (Scan.drop_cons ..)]
  refine (Scan.bind_of_ok (a := inside ++ '\x7d' :: after) rfl).trans ?_
  rw [Scan.bind_of_ok hread, Scan.bind_of_ok hclose]
  rfl

theorem scan_document {cs : List Char} (h : Document cs vs) (hn : (vs.map OptionValue.key).Nodup) :
    ∃ after, Blanks after ∧ scan cs = .ok (vs.foldl put {}, after) := by
  cases h with
  | empty blanksBefore blanks blanksAfter =>
    refine ⟨_, blanksAfter, scan_braces blanksBefore ?_⟩
    rw [readMembers, Scan.bind_of_ok (Scan.nextKey_end true blanks _)]
    rfl
  | members blanksBefore members blanksAfter =>
    refine ⟨_, blanksAfter, scan_braces blanksBefore ?_⟩
    refine readMembers_members members .first hn (fun _ _ => List.not_mem_nil) ?_
    rw [List.length_append]
    omega

theorem not_isBlank_document {document : String} (h : Document document.toList vs) :
    Blank.isBlank document = false := by
  have hbrace : '\x7b' ∈ document.toList := by
    generalize document.toList = cs at h
    cases h <;> simp
  cases hblank : Blank.isBlank document with
  | false => rfl
  | true =>
    have hspace := List.all_eq_true.mp hblank _ hbrace
    exact absurd hspace (by decide)

theorem ofDocument_eq {document : String} (h : Document document.toList vs)
    (hn : (vs.map OptionValue.key).Nodup) (wording : Wording) :
    ofDocument wording document = .ok (vs.foldl put {}) := by
  obtain ⟨after, hafter, hscan⟩ := scan_document h hn
  rw [ofDocument, not_isBlank_document h, Scan.document_of_ok hscan hafter]
  rfl

/-- What options become: the first time that is zero is named, in the order of the times; without one
the configuration has what the options say, each time from milliseconds. -/
inductive Becomes (o : Options) : Except OptionsError Config → Prop where
  | accept (zero : o.acceptTimeout = 0) : Becomes o (.error (.zeroTimeout .accept))
  | request (accept : o.acceptTimeout ≠ 0) (zero : o.requestTimeout = 0) :
    Becomes o (.error (.zeroTimeout .request))
  | eventLoop (accept : o.acceptTimeout ≠ 0) (request : o.requestTimeout ≠ 0)
    (zero : o.eventLoopTimeout = 0) : Becomes o (.error (.zeroTimeout .eventLoop))
  | config {c : Config} (accept : o.acceptTimeout ≠ 0) (request : o.requestTimeout ≠ 0)
    (eventLoop : o.eventLoopTimeout ≠ 0) (directory : c.viewerDirectory = o.path)
    (binary : c.viewerBinary = o.viewerBinary) (style : c.style = o.style)
    (acceptTime : c.acceptTimeout.nanoseconds = o.acceptTimeout * 1000000)
    (requestTime : c.requestTimeout.nanoseconds = o.requestTimeout * 1000000)
    (eventLoopTime : c.eventLoopTimeout.nanoseconds = o.eventLoopTimeout * 1000000) :
    Becomes o (.ok c)

theorem becomes_toConfig (o : Options) : Becomes o o.toConfig := by
  by_cases ha : o.acceptTimeout = 0
  · have h : o.toConfig = .error (.zeroTimeout .accept) := by
      simp [toConfig, Timeout.all, timeout, ha]
    exact h ▸ .accept ha
  by_cases hr : o.requestTimeout = 0
  · have h : o.toConfig = .error (.zeroTimeout .request) := by
      simp [toConfig, Timeout.all, timeout, ha, hr]
    exact h ▸ .request ha hr
  by_cases he : o.eventLoopTimeout = 0
  · have h : o.toConfig = .error (.zeroTimeout .eventLoop) := by
      simp [toConfig, Timeout.all, timeout, ha, hr, he]
    exact h ▸ .eventLoop ha hr he
  · have hnone : Timeout.all.find? (o.timeout · = 0) = none := by
      simp [Timeout.all, timeout, ha, hr, he]
    rw [toConfig, hnone]
    exact .config ha hr he rfl rfl rfl rfl rfl rfl

/-- A document is read to the defaults with the values it gives in their places. Neither their order
nor its other members make a difference. -/
theorem ofDocument_given (wording : Wording) {document : String} {given : List OptionValue}
    (h : Document document.toList given) (hn : (given.map OptionValue.key).Nodup) :
    ∃ o, ofDocument wording document = .ok o ∧
      (∀ v ∈ given, o.value v.key = v) ∧
      (∀ key, key ∉ given.map OptionValue.key → o.value key = value {} key) ∧
      (∀ other given', Document other.toList given' → given'.Perm given →
        ofDocument wording other = .ok o) ∧
      Becomes o o.toConfig := by
  refine ⟨given.foldl put {}, ofDocument_eq h hn wording, fun v hv => value_foldl_put_of_mem {} hn hv,
    fun key hkey => value_foldl_put_of_not_mem {} hkey, ?_, becomes_toConfig _⟩
  intro other given' h' hp
  rw [ofDocument_eq h' ((hp.map _).nodup_iff.mpr hn), foldl_put_perm {} hp hn]

/-- A key by an escape, an unknown member with a value that stands for no text, and the largest
number. -/
theorem ofDocument_given_escaped :
    ∃ o, ofDocument (fun _ => "")
      ("\x7b \"\\u0073tyle\" : \"a\\\"b\",\"theme\":\x7b\"style\":[\"\\ud800\"]\x7d," ++
        "\n\"request_timeout_ms\":18446744073709551615 ,\"oid_path\":null\x7d") = .ok o ∧
      o.value .style = .style "a\"b" ∧
      o.value (.timeout .request) = .timeout .request 18446744073709551615 ∧
      o.value .path = .path none ∧
      o.value .viewerBinary = .viewerBinary "oidwindow" ∧
      Becomes o o.toConfig := by
  have hstyle : Spells ("\\u0073".toList ++ "tyle".toList) "style".toList :=
    .cons (@Writes.unit '0' '0' '7' '3' 115 rfl rfl rfl) (spells_escape "tyle".toList)
  have hfirst := @Member.parts [' '] _ [' '] [' '] _ [] "style" _ (by decide) hstyle
    (by decide) (by decide) (.known (.style (spells_escape "a\"b".toList))) (by decide)
  have hstring : Inside "\\ud800".toList := .cons (@Piece.unit 'd' '8' '0' '0' rfl) .nil
  have harray : Derives .element ('[' :: ('"' :: ("\\ud800".toList ++ ['"']) ++ [']'])) :=
    .element blanks_nil (.array (.lastElement (.element blanks_nil (.string hstring) blanks_nil)))
      blanks_nil
  have hobject := Derives.object (.lastMember (@Derives.member [] "style".toList [] _ blanks_nil
    (spells_escape "style".toList).inside blanks_nil harray))
  have htheme : ∀ key : OptionKey, key.name ≠ "theme" := by
    rintro (_ | _ | _ | _ | _ | _) <;> decide
  have hsecond := @Member.parts [] _ [] [] _ [] "theme" _ (by decide)
    (spells_escape "theme".toList) (by decide) (by decide) (.unknown htheme hobject) (by decide)
  have hlargest : (OptionValue.timeout .request 18446744073709551615).Written
      "18446744073709551615".toList :=
    .timeout .request ⟨⟨by decide, List.all_eq_true.mp (by decide)⟩, by decide⟩ (by decide)
      (by decide)
  have hthird := @Member.parts ['\n'] _ [] [] _ [' '] "request_timeout_ms" _ (by decide)
    (spells_escape "request_timeout_ms".toList) (by decide) (by decide) (.known hlargest) (by decide)
  have hlast := @Member.parts [] _ [] [] _ [] "oid_path" _ (by decide)
    (spells_escape "oid_path".toList) (by decide) (by decide) (.known .null) (by decide)
  have hmembers := Members.next hfirst (.next hsecond (.next hthird (.last hlast)))
  have hdocument := Document.members blanks_nil hmembers blanks_nil
  obtain ⟨o, ho, hgiven, hrest, -, hconfig⟩ := @ofDocument_given (fun _ => "")
    ("\x7b \"\\u0073tyle\" : \"a\\\"b\",\"theme\":\x7b\"style\":[\"\\ud800\"]\x7d," ++
      "\n\"request_timeout_ms\":18446744073709551615 ,\"oid_path\":null\x7d")
    [.style "a\"b", .timeout .request 18446744073709551615, .path none] hdocument (by decide)
  exact ⟨o, ho, hgiven (.style "a\"b") (by decide),
    hgiven (.timeout .request 18446744073709551615) (by decide), hgiven (.path none) (by decide),
    hrest .viewerBinary (by decide), hconfig⟩

end Options
end ViewerBridge
