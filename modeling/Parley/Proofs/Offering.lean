import Parley.Http

namespace Parley.Http

/-- The characters that RFC 9110 makes tokens of. -/
def isTokenChar (c : Char) : Bool :=
  c.isAlphanum || "!#$%&'*+-.^_|~\x60".toList.contains c

def IsToken (s : String) : Prop := s ≠ "" ∧ s.toList.all isTokenChar = true

instance (s : String) : Decidable (IsToken s) :=
  inferInstanceAs (Decidable (s ≠ "" ∧ s.toList.all isTokenChar = true))

/-- The characters that RFC 3986 lets a path have, the slash among them. -/
def isPathChar (c : Char) : Bool :=
  c.isAlphanum || "/-._~!$&'()*+,;=:@".toList.contains c

def isHexDigit (c : Char) : Bool :=
  c.isDigit || "abcdefABCDEF".toList.contains c

/-- Other bytes are spelled by their numbers. -/
def isPathText : List Char → Bool
  | '%' :: high :: low :: cs => isHexDigit high && isHexDigit low && isPathText cs
  | c :: cs => isPathChar c && isPathText cs
  | [] => true

/-- A path as an address has it, behind which no query follows. -/
def IsUrlPath (s : String) : Prop := s.toList.head? = some '/' ∧ isPathText s.toList = true

instance (s : String) : Decidable (IsUrlPath s) :=
  inferInstanceAs (Decidable (s.toList.head? = some '/' ∧ isPathText s.toList = true))

variable {Request Response Name Value : Type}

/-- What any library for HTTP does with fields: their names may be written in any case, a token is a
value and its text, and one field more for a request is one more at the end. -/
structure Lawful (http : Http Request Response Name Value) : Prop where
  name : http.name "Sec-WebSocket-Protocol" = .ok http.protocol
  value : ∀ s, IsToken s → ∃ v, http.value s = .ok v ∧ http.text? v = some s
  values_append : ∀ name v r,
    http.values name (http.append name v r) = http.values name r ++ [v]
  path_append : ∀ name v r, http.path (http.append name v r) = http.path r

/-- Requests to a host arrive with the path that they are made for, and with the fields that they
are sent with. -/
structure Carries (http : Http Request Response Name Value) (deliver : Request → Request)
    (host : String) : Prop where
  target : ∀ target request, IsUrlPath target →
    http.request s!"ws://{host}{target}" = .ok request → http.path request = target
  path : ∀ request, http.path (deliver request) = http.path request
  values : ∀ name request, http.values name (deliver request) = http.values name request

theorem isAlphanum_range {c : Char} (h : c.isAlphanum = true) :
    48 ≤ c.toNat ∧ c.toNat ≤ 122 := by
  have ranges : c.isAlphanum = (decide (65 ≤ c.val ∧ c.val ≤ 90) ||
      (decide (97 ≤ c.val) && decide (c.val ≤ 122)) ||
      (decide (48 ≤ c.val) && decide (c.val ≤ 57))) := rfl
  rw [ranges] at h
  simp [UInt32.le_iff_toNat_le, or_assoc] at h
  omega

theorem isTokenChar_range {c : Char} (h : isTokenChar c = true) :
    32 < c.toNat ∧ c.toNat < 127 ∧ c ≠ ',' := by
  rw [isTokenChar, Bool.or_eq_true, List.contains_iff_mem] at h
  rcases h with alphanumeric | sign
  · have range := isAlphanum_range alphanumeric
    refine ⟨by omega, by omega, ?_⟩
    intro comma
    subst comma
    simp at range
  · have range : ("!#$%&'*+-.^_|~\x60".toList.all fun c =>
        32 < c.toNat && c.toNat < 127 && c != ',') = true := by decide +kernel
    simpa [and_assoc] using List.all_eq_true.mp range c sign

theorem isBlank_eq_false {c : Char} (h : 32 < c.toNat ∧ c.toNat < 127) :
    Text.isBlank c = false := by
  simp only [Text.isBlank, Text.blankRanges, List.any_cons, List.any_nil, Bool.or_false,
    Bool.or_eq_false_iff, Bool.and_eq_false_iff, decide_eq_false_iff_not]
  omega

theorem dropWhile_none {p : Char → Bool} {cs : List Char} (h : ∀ c ∈ cs, p c = false) :
    cs.dropWhile p = cs := by
  cases cs with
  | nil => rfl
  | cons c cs => exact List.dropWhile_cons_of_neg (by simp [h c List.mem_cons_self])

theorem IsToken.trim {s : String} (h : IsToken s) : Text.trim s = s := by
  have solid (c : Char) (hc : c ∈ s.toList) : Text.isBlank c = false := by
    obtain ⟨above, below, -⟩ := isTokenChar_range (List.all_eq_true.mp h.2 c hc)
    exact isBlank_eq_false ⟨above, below⟩
  have back (c : Char) (hc : c ∈ s.toList.reverse) := solid c (List.mem_reverse.mp hc)
  rw [Text.trim, dropWhile_none solid, dropWhile_none back, List.reverse_reverse,
    String.ofList_toList]

/-- A token stands alone in a list. -/
theorem IsToken.listed {s : String} (h : IsToken s) :
    ((s.toList.splitOn ',').map fun part => Text.trim (String.ofList part)) = [s] := by
  have unsplit : ',' ∉ s.toList := fun hc =>
    (isTokenChar_range (List.all_eq_true.mp h.2 ',' hc)).2.2 rfl
  rw [List.splitOn_eq_singleton unsplit, List.map_singleton, String.ofList_toList, h.trim]

theorem offered_of_mem {http : Http Request Response Name Value} {request : Request} {v : Value}
    {s : String} (h : IsToken s) (hs : http.text? v = some s)
    (hv : v ∈ http.values http.protocol request) : s ∈ http.offered request := by
  refine List.mem_flatMap.mpr ⟨s, List.mem_filterMap.mpr ⟨v, hv, hs⟩, ?_⟩
  rw [h.listed]
  exact List.mem_singleton_self s

/-- The fields of a request that offers this subprotocol, or none. -/
def offer (protocol : Option String) : List HeaderField :=
  protocol.toList.map fun p => ("Sec-WebSocket-Protocol", p)

namespace Lawful

variable {http : Http Request Response Name Value} {deliver : Request → Request}

/-- Where the address can be asked for at all, a request is made that offers the subprotocol. -/
theorem handshake_offer (h : http.Lawful) {host target : String} {protocol : Option String}
    (hp : ∀ p ∈ protocol, IsToken p) {base : Request}
    (hb : http.request s!"ws://{host}{target}" = .ok base) :
    ∃ request, http.handshake ⟨host, target, offer protocol⟩ = .ok request ∧
      http.path request = http.path base ∧
      ∀ p ∈ protocol, ∃ v ∈ http.values http.protocol request, http.text? v = some p := by
  cases protocol with
  | none =>
    refine ⟨base, ?_, rfl, nofun⟩
    simp only [handshake, hb]
    rfl
  | some p =>
    obtain ⟨v, hv, text⟩ := h.value p (hp p rfl)
    refine ⟨http.append http.protocol v base, ?_, h.path_append _ v base, ?_⟩
    · have added : http.addField base ("Sec-WebSocket-Protocol", p) =
          .ok (http.append http.protocol v base) := by simp only [addField, h.name, hv]
      simp only [handshake, hb, offer, Option.toList_some, List.map_cons, List.map_nil]
      exact (List.foldlM_cons ..).trans (congrArg (· >>= _) added)
    · intro p' hp'
      obtain rfl : p = p' := Option.some.inj hp'
      refine ⟨v, ?_, text⟩
      rw [h.values_append]
      exact List.mem_append_right _ List.mem_cons_self

end Lawful

/-- A request for another path is turned down. -/
theorem accept_elsewhere {http : Http Request Response Name Value} {policy : AcceptPolicy}
    {path : String} (hp : policy.path = some path) {request : Request}
    (other : path ≠ http.path request) (response : Response) :
    http.accept policy request response = .error ⟨404, "unknown path"⟩ := by
  rw [accept, hp]
  exact if_pos (by simpa using other)

/-- A request for the path that is accepted is let in if it offers what is required. -/
theorem accept_fitting {http : Http Request Response Name Value} {policy : AcceptPolicy}
    {request : Request} (hp : ∀ path ∈ policy.path, path = http.path request)
    (ho : ∀ protocol ∈ policy.protocol, protocol ∈ http.offered request) (response : Response) :
    ∃ answer, http.accept policy request response = .ok answer := by
  have here : ¬(policy.path.any (· ≠ http.path request)) = true := by
    cases set : policy.path with
    | none => simp
    | some path => simpa using hp path set
  unfold accept
  rw [if_neg here]
  cases required : policy.protocol with
  | none => exact ⟨_, rfl⟩
  | some protocol => exact ⟨_, if_neg (not_not_intro (ho protocol required))⟩

/-- A library to which every text is in order. The path begins with the first slash behind
`ws://`. -/
def verbatim :
    Http (String × List HeaderField) (List HeaderField) String String where
  request address :=
    .ok (String.ofList ((address.toList.drop "ws://".length).dropWhile (· ≠ '/')), [])
  name s := .ok s.toLower
  value := .ok
  text? := some
  protocol := "sec-websocket-protocol"
  path := (·.1)
  values name request := (request.2.filter (·.1 = name)).map (·.2)
  append name value request := (request.1, request.2 ++ [(name, value)])
  insert name value fields := fields.filter (·.1 ≠ name) ++ [(name, value)]
  appendTo name value fields := fields ++ [(name, value)]

theorem verbatim_lawful : verbatim.Lawful where
  name := congrArg Except.ok (by decide +kernel : "Sec-WebSocket-Protocol".toLower = _)
  value s _ := ⟨s, rfl, rfl⟩
  values_append name v r := by simp [verbatim]
  path_append _ _ _ := rfl

theorem verbatim_carries {host : String} (h : '/' ∉ host.toList) : verbatim.Carries id host where
  target target request path made := by
    have text : (s!"ws://{host}{target}").toList.drop "ws://".length =
        host.toList ++ target.toList := by
      simp only [toString, String.toList_append, List.append_assoc]
      rfl
    have slash : target.toList.dropWhile (· ≠ '/') = target.toList := by
      cases ht : target.toList with
      | nil => rfl
      | cons c cs =>
        have first := path.1
        simp only [ht, List.head?_cons, Option.some.injEq] at first
        simp [first]
    have skipped : (host.toList ++ target.toList).dropWhile (· ≠ '/') = target.toList := by
      rw [List.dropWhile_append_of_pos fun c hc => ?_, slash]
      simpa using fun same : c = '/' => h (same ▸ hc)
    obtain rfl := Except.ok.inj made
    change String.ofList (((s!"ws://{host}{target}").toList.drop "ws://".length).dropWhile
      (· ≠ '/')) = target
    rw [text, skipped, String.ofList_toList]
  path _ := rfl
  values _ _ := rfl

end Parley.Http
