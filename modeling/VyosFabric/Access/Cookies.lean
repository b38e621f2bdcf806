import VyosFabric.Client.Number
import VyosFabric.Interaction.Trace
import VyosFabric.Model.Text
import VyosFabric.Routes.Access
import VyosFabric.Show.Storage

/-!
# The session cookie

A login answers with a cookie that holds the token of the session, a logout with one that takes it
away, and `require_auth` finds the token among all cookies that the browser sends. The browser and
the encoding of tokens are parameters (`Browser`, `Jwt`) with what the specifications promise of
them; every time is a number of seconds.

A cookie lasts a day from its receipt, a token a day and a minute from its issue. Whatever other
cookies come and go, a request is served for the user of the last login since the last logout, as
long as both are good, and refused else (`session_served`).
-/

namespace VyosFabric

open Interaction

/-- A header, or a part of one. -/
abbrev Chars : Type := List Char

/-! ### Tokens -/

/-- The payload of a token: the claims, for whom and from when till when. -/
structure TokenClaims where
  claims : Claims
  username : String
  exp : ℕ
  iat : ℕ
  deriving DecidableEq, Repr

/-- Claims for a freshly authenticated user (24 h lifetime). -/
def TokenClaims.new (now : ℕ) (sub : Uuid) (username role : String) : TokenClaims :=
  ⟨⟨sub, role⟩, username, now + 24 * 60 * 60, now⟩

/-- Letters, digits and the signs of the URL-safe alphabet; the dot is between the parts. -/
def isTokenChar (c : Char) : Bool :=
  let n := c.toNat
  (48 ≤ n && n ≤ 57) || (65 ≤ n && n ≤ 90) || (97 ≤ n && n ≤ 122) || n == 45 || n == 95 || n == 46

/-- `jsonwebtoken` with its defaults: the expiry is checked with a leeway of a minute. -/
structure Jwt where
  encode : TokenClaims → String → Option Chars
  decode : ℕ → Chars → String → Option TokenClaims
  encode_chars : ∀ {claims secret token}, encode claims secret = some token →
    token ≠ [] ∧ ∀ c ∈ token, isTokenChar c = true
  decode_encode : ∀ {claims secret token} (now), encode claims secret = some token →
    decode now token secret = if now ≤ claims.exp + 60 then some claims else none

/-! ### Headers -/

def cookieName : Chars := "vyos_token".toList

/-- The text of a `Set-Cookie` header. -/
def setCookieText (name value : Chars) (attributes : List String) : Chars :=
  name ++ '=' :: value ++ attributes.flatMap fun a ↦ ';' :: ' ' :: a.toList

/-- What the backend says of its cookies. -/
def cookieAttributes (age : ℕ) (secure : Bool) : List String :=
  ["HttpOnly", "SameSite=Lax", "Path=/", "Max-Age=" ++ age.repr] ++
    if secure then ["Secure"] else []

/-- `Set-Cookie` value carrying the session token. -/
def sessionCookie (secure : Bool) (token : Chars) : Chars :=
  setCookieText cookieName token (cookieAttributes 86400 secure)

/-- `Set-Cookie` value that expires the session cookie immediately. -/
def clearCookie : Chars := setCookieText cookieName [] (cookieAttributes 0 false)

structure HeaderMap where
  cookie : Option Chars
  authorization : Option Chars
  deriving DecidableEq, Repr

/-- Visible ASCII characters and tabs. -/
def isVisible (c : Char) : Bool := c.toNat == 9 || (32 ≤ c.toNat && c.toNat < 127)

/-- `to_str`. -/
def toStr (v : Chars) : Option Chars := if v.all isVisible then some v else none

/-- The value of one part of the cookie header, if it is the session's. -/
def cookieToken (part : Chars) : Option Chars :=
  (stripPrefix (cookieName ++ ['=']) (strip isWhitespace part)).filter fun val ↦ val ≠ []

/-- `Authorization: Bearer`. -/
def bearer (authorization : Option Chars) : Option Chars :=
  (authorization.bind toStr).bind (stripPrefix "Bearer ".toList)

def extractToken (headers : HeaderMap) : Option Chars :=
  ((headers.cookie.bind toStr).bind fun cookie ↦ (cookie.splitOn ';').findSome? cookieToken).or
    (bearer headers.authorization)

/-- Requires a valid session; what it finds is put into the request. -/
def requireAuth (J : Jwt) (secret : String) (now : ℕ) (headers : HeaderMap) :
    Except AppError TokenClaims :=
  match extractToken headers with
  | none => .error .unauthorized
  | some token =>
    match J.decode now token secret with
    | none => .error .unauthorized
    | some claims => .ok claims

/-! ### The browser -/

/-- Blanks of a header. -/
def isHeaderBlank (c : Char) : Bool := c == ' ' || c == '\t'

/-- A name and a value of a cookie, as a browser keeps them. -/
structure IsPair (name value : Chars) : Prop where
  ne_nil : name ≠ []
  noEquals : '=' ∉ name
  noSemicolon : ';' ∉ name ++ value
  nameTrimmed : strip isHeaderBlank name = name
  valueTrimmed : strip isHeaderBlank value = value

/-- The cookies a browser keeps for the application, whose name and value they are sent with. -/
structure Browser (Jar : Type) where
  /-- The application is reached over a secure channel. -/
  https : Bool
  receive : ℕ → Chars → Jar → Jar
  sends : ℕ → Jar → List (Chars × Chars)
  sends_isPair : ∀ {now jar}, ∀ p ∈ sends now jar, IsPair p.1 p.2
  /-- A cookie replaces that of its name, and is sent for as many seconds as it says. -/
  sends_receive : ∀ {name value age secure now later} (jar), IsPair name value →
    (secure = true → https = true) → now ≤ later →
    (sends later (receive now (setCookieText name value (cookieAttributes age secure)) jar)).filter
      (fun p ↦ p.1 = name) = if later < now + age then [(name, value)] else []

/-- The cookies of a request in one header. -/
def cookieHeader (pairs : List (Chars × Chars)) : Option Chars :=
  if pairs = [] then none
  else some ([';', ' '].intercalate (pairs.map fun p ↦ p.1 ++ '=' :: p.2))

/-! ### Reading the header -/

section Strip

variable {p q : Char → Bool} {l name value : Chars}

/-- What is trimmed starts with no blank, and ends with none. -/
theorem dropWhile_of_strip (h : strip p l = l) : l.dropWhile p = l := by
  have hkept : (strip p l).length ≤ (l.dropWhile p).length :=
    (List.rdropWhile_prefix p _).length_le
  rw [h] at hkept
  exact (List.dropWhile_suffix p).eq_of_length_le hkept

theorem rdropWhile_of_strip (h : strip p l = l) : l.rdropWhile p = l := by
  rwa [strip, dropWhile_of_strip h] at h

/-- A name and a value without blanks at their ends, next to each other. -/
theorem strip_pair (hne : name ≠ []) (hname : strip p name = name) (hequals : p '=' = false)
    (hvalue : strip p value = value) :
    strip p (name ++ '=' :: value) = name ++ '=' :: value := by
  have hstart : (name ++ '=' :: value).dropWhile p = name ++ '=' :: value := by
    rw [List.dropWhile_append, dropWhile_of_strip hname,
      if_neg (mt List.isEmpty_iff.1 hne)]
  have hend := rdropWhile_of_strip hvalue
  rw [List.rdropWhile, List.reverse_eq_iff] at hend
  rw [strip, hstart, List.rdropWhile, List.reverse_eq_iff, List.reverse_append,
    List.reverse_cons, List.append_assoc, List.dropWhile_append, hend]
  split
  · next hnil =>
    rw [List.isEmpty_iff.1 hnil]
    exact List.dropWhile_cons_of_neg (Bool.eq_false_iff.1 hequals)
  · rfl

theorem dropWhile_congr (h : ∀ c ∈ l, p c = q c) : l.dropWhile p = l.dropWhile q := by
  induction l with
  | nil => rfl
  | cons c l ih =>
    rw [List.dropWhile_cons, List.dropWhile_cons, h c List.mem_cons_self,
      ih fun c hc ↦ h c (List.mem_cons_of_mem _ hc)]

theorem strip_congr (h : ∀ c ∈ l, p c = q c) : strip p l = strip q l := by
  rw [strip, strip, dropWhile_congr h, List.rdropWhile, List.rdropWhile]
  refine congrArg List.reverse (dropWhile_congr fun c hc ↦ h c ?_)
  exact (List.dropWhile_suffix q).subset (List.mem_reverse.1 hc)

end Strip

section Reading

variable {name value : Chars} {pairs : List (Chars × Chars)}

/-- The blanks among visible characters. -/
theorem isWhitespace_of_visible {c : Char} (h : isVisible c = true) :
    isWhitespace c = isHeaderBlank c := by
  have hspace : (c == ' ') = (c.toNat == 32) := by
    rw [Bool.eq_iff_iff, beq_iff_eq, beq_iff_eq]
    exact Char.toNat_inj.symm
  have htab : (c == '\t') = (c.toNat == 9) := by
    rw [Bool.eq_iff_iff, beq_iff_eq, beq_iff_eq]
    exact Char.toNat_inj.symm
  rw [isHeaderBlank, hspace, htab, isWhitespace]
  rw [isVisible] at h
  generalize c.toNat = n at h ⊢
  rw [Bool.eq_iff_iff]
  simp only [Bool.or_eq_true, Bool.and_eq_true, beq_iff_eq, decide_eq_true_eq] at h ⊢
  omega

/-- A blank before the part does not matter. -/
theorem cookieToken_blank (part : Chars) : cookieToken (' ' :: part) = cookieToken part := by
  rw [cookieToken, cookieToken, strip, List.dropWhile_cons_of_pos (by decide)]
  rfl

theorem takeWhile_pair (hname : '=' ∉ name) :
    (name ++ '=' :: value).takeWhile (fun c ↦ c != '=') = name := by
  rw [List.takeWhile_append_of_pos fun c hc ↦ bne_iff_ne.2 (ne_of_mem_of_not_mem hc hname),
    List.takeWhile_cons_of_neg (by simp), List.append_nil]

theorem prefix_pair_iff {key : Chars} (hkey : '=' ∉ key) (hname : '=' ∉ name) :
    key ++ ['='] <+: name ++ '=' :: value ↔ name = key := by
  constructor
  · rintro ⟨rest, hrest⟩
    rw [List.append_assoc] at hrest
    rw [← takeWhile_pair hname, ← hrest]
    exact takeWhile_pair hkey
  · rintro rfl
    exact ⟨value, by rw [List.append_assoc]; rfl⟩

/-- The session's value among the parts. -/
theorem cookieToken_pair (h : IsPair name value)
    (hvisible : ∀ c ∈ name ++ '=' :: value, isVisible c = true) :
    cookieToken (name ++ '=' :: value) =
      if name = cookieName ∧ value ≠ [] then some value else none := by
  have hstrip : strip isWhitespace (name ++ '=' :: value) = name ++ '=' :: value := by
    rw [strip_congr fun c hc ↦ isWhitespace_of_visible (hvisible c hc)]
    exact strip_pair h.ne_nil h.nameTrimmed (by decide) h.valueTrimmed
  rw [cookieToken, hstrip, stripPrefix]
  by_cases hname : name = cookieName
  · subst hname
    rw [if_pos (List.isPrefixOf_iff_prefix.2
      ((prefix_pair_iff (by decide) (by decide)).2 rfl))]
    have hdrop : (cookieName ++ '=' :: value).drop (cookieName ++ ['=']).length = value := by
      rw [List.append_cons]
      exact List.drop_left
    rw [hdrop]
    by_cases hvalue : value = []
    · rw [hvalue]
      rfl
    · rw [if_pos ⟨rfl, hvalue⟩]
      exact if_pos (decide_eq_true hvalue)
  · rw [if_neg, if_neg fun hboth ↦ hname hboth.1]
    · rfl
    · rw [List.isPrefixOf_iff_prefix, prefix_pair_iff (by decide) h.noEquals]
      exact hname

/-- The blank after each semicolon belongs to the next part. -/
theorem intercalate_blank (l : Chars) (ls : List Chars) :
    [';', ' '].intercalate (l :: ls) = [';'].intercalate (l :: ls.map (' ' :: ·)) := by
  induction ls generalizing l with
  | nil => rfl
  | cons l' ls ih =>
    rw [List.intercalate_cons_cons, ih, List.map_cons, List.intercalate_cons_cons]
    cases ls with
    | nil => simp
    | cons => simp [List.intercalate_cons_cons]

theorem splitOn_cookieHeader {part : Chars} {parts : List Chars}
    (h : ∀ l ∈ part :: parts, ';' ∉ l) :
    ([';', ' '].intercalate (part :: parts)).splitOn ';' = part :: parts.map (' ' :: ·) := by
  rw [intercalate_blank]
  refine List.splitOn_intercalate ';' ?_ (List.cons_ne_nil _ _)
  intro l hl
  rcases List.mem_cons.1 hl with rfl | hl
  · exact h _ List.mem_cons_self
  · obtain ⟨l', hl', rfl⟩ := List.mem_map.1 hl
    exact fun hmem ↦ h l' (List.mem_cons_of_mem _ hl')
      (List.mem_of_ne_of_mem (by decide) hmem)

/-- A header of visible parts is visible. -/
theorem isVisible_intercalate {part : Chars} {parts : List Chars}
    (h : ∀ l ∈ part :: parts, ∀ c ∈ l, isVisible c = true) :
    ∀ c ∈ [';', ' '].intercalate (part :: parts), isVisible c = true := by
  induction parts generalizing part with
  | nil =>
    rw [List.intercalate_singleton]
    exact h part List.mem_cons_self
  | cons part' parts ih =>
    rw [List.intercalate_cons_cons]
    intro c hc
    rcases List.mem_append.1 hc with hc | hc
    · rcases List.mem_append.1 hc with hc | hc
      · exact h part List.mem_cons_self c hc
      · rcases List.mem_pair.1 hc with rfl | rfl <;> rfl
    · exact ih (fun l hl ↦ h l (List.mem_cons_of_mem _ hl)) c hc

/-- **The token is found among all cookies.** -/
theorem extractToken_cookieHeader (hpairs : ∀ p ∈ pairs, IsPair p.1 p.2)
    (hvisible : ∀ p ∈ pairs, ∀ c ∈ p.1 ++ '=' :: p.2, isVisible c = true) :
    extractToken ⟨cookieHeader pairs, none⟩ =
      pairs.findSome? fun p ↦ if p.1 = cookieName ∧ p.2 ≠ [] then some p.2 else none := by
  cases pairs with
  | nil => rfl
  | cons p pairs =>
    set part : Chars × Chars → Chars := fun p ↦ p.1 ++ '=' :: p.2
    have hparts : ∀ l ∈ part p :: pairs.map part, ∃ p' ∈ p :: pairs, part p' = l := by
      intro l hl
      exact List.mem_map.1 (List.map_cons ▸ hl)
    have hsplit := @splitOn_cookieHeader (part p) (pairs.map part) fun l hl ↦ by
      obtain ⟨p', hp', rfl⟩ := hparts l hl
      intro hmem
      refine (hpairs p' hp').noSemicolon (List.mem_append.2 ?_)
      exact (List.mem_append.1 hmem).imp_right fun hv ↦ List.mem_of_ne_of_mem (by decide) hv
    have hall : ([';', ' '].intercalate (part p :: pairs.map part)).all isVisible = true := by
      refine List.all_eq_true.2 (isVisible_intercalate fun l hl ↦ ?_)
      obtain ⟨p', hp', rfl⟩ := hparts l hl
      exact hvisible p' hp'
    have htoken : ∀ p' ∈ p :: pairs, cookieToken (part p') =
        if p'.1 = cookieName ∧ p'.2 ≠ [] then some p'.2 else none :=
      fun p' hp' ↦ cookieToken_pair (hpairs p' hp') (hvisible p' hp')
    rw [extractToken, cookieHeader, if_neg (List.cons_ne_nil _ _), List.map_cons,
      Option.bind_some, toStr, if_pos hall, Option.bind_some, hsplit, bearer, Option.bind_none,
      Option.bind_none, Option.or_none, List.findSome?_cons, List.findSome?_cons,
      htoken p List.mem_cons_self]
    cases if p.1 = cookieName ∧ p.2 ≠ [] then some p.2 else none with
    | some token => rfl
    | none =>
      show ((pairs.map part).map (' ' :: ·)).findSome? cookieToken = pairs.findSome? _
      rw [List.map_map, List.findSome?_map, ← List.head?_filterMap, ← List.head?_filterMap]
      refine congrArg List.head? (List.filterMap_congr fun p' hp' ↦ ?_)
      exact (cookieToken_blank _).trans (htoken p' (List.mem_cons_of_mem _ hp'))

end Reading

/-! ### Sessions of a browser -/

variable {Jar : Type}

/-- The cookies named like the session's. -/
def Browser.own (B : Browser Jar) (now : ℕ) (jar : Jar) : List (Chars × Chars) :=
  (B.sends now jar).filter fun p ↦ p.1 = cookieName

/-- The headers of a request; the pages send no `Authorization`. -/
def Browser.headers (B : Browser Jar) (now : ℕ) (jar : Jar) : HeaderMap :=
  ⟨cookieHeader (B.sends now jar), none⟩

/-- What happens to the cookies of a browser. -/
inductive SessionAct where
  /-- The answer of a login, and when it was received. -/
  | login (issued : ℕ) (sub : Uuid) (username role : String) (received : ℕ)
  | logout (received : ℕ)
  /-- Cookies of another name. -/
  | other
  deriving DecidableEq, Repr

namespace SessionAct

/-- It was received by then. -/
def Reached (now : ℕ) : SessionAct → Prop
  | login _ _ _ _ received => received ≤ now
  | logout received => received ≤ now
  | other => True

end SessionAct

/-- One step of the cookies of a browser. -/
inductive SessionStep (B : Browser Jar) (J : Jwt) (secret : String) (secure : Bool) :
    Jar → SessionAct → Jar → Prop
  | login {jar : Jar} {issued received : ℕ} {sub : Uuid} {username role : String} {token : Chars} :
      J.encode (.new issued sub username role) secret = some token →
      SessionStep B J secret secure jar (.login issued sub username role received)
        (B.receive received (sessionCookie secure token) jar)
  | logout {jar : Jar} {received : ℕ} :
      SessionStep B J secret secure jar (.logout received) (B.receive received clearCookie jar)
  | other {jar jar' : Jar} : (∀ now, B.own now jar' = B.own now jar) →
      SessionStep B J secret secure jar .other jar'

/-- A session: the claims of its token, and when the browser got it. -/
structure BrowserSession where
  claims : TokenClaims
  received : ℕ
  deriving DecidableEq, Repr

namespace BrowserSession

/-- Both the cookie and the token are good. -/
def Good (s : BrowserSession) (now : ℕ) : Prop := now < s.received + 86400 ∧ now ≤ s.claims.exp + 60

instance (s : BrowserSession) (now : ℕ) : Decidable (s.Good now) :=
  inferInstanceAs (Decidable (_ ∧ _))

/-- The session after an act. -/
def after (before : Option BrowserSession) : SessionAct → Option BrowserSession
  | .login issued sub username role received => some ⟨.new issued sub username role, received⟩
  | .logout _ => none
  | .other => before

end BrowserSession

/-- The session of the last login, if no logout came after it. -/
def lastSession (acts : List SessionAct) : Option BrowserSession :=
  acts.foldl BrowserSession.after none

section Served

variable {B : Browser Jar} {J : Jwt} {secret : String} {secure : Bool} {jar jar' : Jar} {now : ℕ}

theorem isPair_of_token {token : Chars} (h : ∀ c ∈ token, isTokenChar c = true) :
    IsPair cookieName token where
  ne_nil := by decide
  noEquals := by decide
  noSemicolon := by
    rw [List.mem_append]
    rintro (hmem | hmem)
    · revert hmem
      decide
    · exact absurd (h _ hmem) (by decide)
  nameTrimmed := by decide
  valueTrimmed := by
    refine strip_eq_self fun c hc ↦ Bool.eq_false_iff.2 fun hblank ↦ ?_
    rcases Bool.or_eq_true _ _ ▸ hblank with hblank | hblank
    · exact absurd (eq_of_beq hblank ▸ h c hc) (by decide)
    · exact absurd (eq_of_beq hblank ▸ h c hc) (by decide)

theorem isVisible_of_token {c : Char} (h : isTokenChar c = true) : isVisible c = true := by
  rw [isTokenChar] at h
  rw [isVisible]
  generalize c.toNat = n at h ⊢
  simp only [Bool.or_eq_true, Bool.and_eq_true, beq_iff_eq, decide_eq_true_eq] at h ⊢
  omega

/-- The cookie of the session, and no other of its name, as long as it lasts. -/
def Keeps (B : Browser Jar) (J : Jwt) (secret : String) (now : ℕ) (jar : Jar) :
    Option BrowserSession → Prop
  | none => B.own now jar = []
  | some s => ∃ token, J.encode s.claims secret = some token ∧
      B.own now jar = if now < s.received + 86400 then [(cookieName, token)] else []

/-- **One step.** -/
theorem keeps_of_step {a : SessionAct} {before : Option BrowserSession}
    (hsecure : secure = true → B.https = true) (h : SessionStep B J secret secure jar a jar')
    (hreached : a.Reached now) (hbefore : Keeps B J secret now jar before) :
    Keeps B J secret now jar' (BrowserSession.after before a) := by
  cases h with
  | @login issued received sub username role token hencode =>
    refine ⟨token, hencode, ?_⟩
    exact B.sends_receive jar (isPair_of_token (J.encode_chars hencode).2) hsecure hreached
  | @logout received =>
    have hpair : IsPair cookieName [] := isPair_of_token fun c hc ↦ absurd hc List.not_mem_nil
    have hnone : ¬now < received + 0 := by
      have hle : received ≤ now := hreached
      omega
    refine (B.sends_receive jar hpair (fun h ↦ by cases h) hreached).trans ?_
    exact if_neg hnone
  | other hown =>
    cases before with
    | none => exact (hown now).trans hbefore
    | some s =>
      obtain ⟨token, hencode, hsent⟩ := hbefore
      exact ⟨token, hencode, (hown now).trans hsent⟩

/-- **A run.** -/
theorem keeps_of_trace {acts : List SessionAct} (hsecure : secure = true → B.https = true)
    (h : Trace (SessionStep B J secret secure) jar acts jar')
    (hreached : ∀ a ∈ acts, a.Reached now) (hstart : B.own now jar = []) :
    Keeps B J secret now jar' (lastSession acts) := by
  refine h.from_end (P := fun acts jar' ↦ (∀ a ∈ acts, a.Reached now) →
    Keeps B J secret now jar' (lastSession acts)) (fun _ ↦ hstart) ?_ hreached
  intro acts m a jar' _ hstep ih hreached
  rw [lastSession, List.foldl_append]
  refine keeps_of_step hsecure hstep (hreached a (by simp)) (ih fun b hb ↦ ?_)
  exact hreached b (List.mem_append_left _ hb)

theorem visible_of_keeps {session : Option BrowserSession}
    (h : Keeps B J secret now jar session) :
    ∀ p ∈ B.own now jar, ∀ c ∈ p.1 ++ '=' :: p.2, isVisible c = true := by
  intro p hp
  cases session with
  | none =>
    have hown : B.own now jar = [] := h
    rw [hown] at hp
    cases hp
  | some s =>
    obtain ⟨token, hencode, hown⟩ := h
    rw [hown] at hp
    split at hp
    · obtain rfl := List.mem_singleton.1 hp
      have hname : (cookieName ++ ['=']).all isVisible = true := by decide
      intro c hc
      rcases List.mem_append.1 (List.append_cons _ _ _ ▸ hc) with hc | hc
      · exact List.all_eq_true.1 hname c hc
      · exact isVisible_of_token ((J.encode_chars hencode).2 c hc)
    · cases hp

/-- The token of a login is issued for a day. -/
theorem exp_of_lastSession {acts : List SessionAct} {s : BrowserSession}
    (h : lastSession acts = some s) : s.claims.exp = s.claims.iat + 86400 := by
  induction acts using List.reverseRecOn generalizing s with
  | nil => cases h
  | append_singleton acts a ih =>
    rw [lastSession, List.foldl_append] at h
    cases a with
    | login issued sub username role received =>
      obtain rfl := Option.some.inj h
      rfl
    | logout => cases h
    | other => exact ih h

/-- The cookies of other names do not matter for the token. -/
theorem extractToken_headers
    (hvisible : ∀ p ∈ B.sends now jar, ∀ c ∈ p.1 ++ '=' :: p.2, isVisible c = true) :
    extractToken (B.headers now jar) =
      (B.own now jar).findSome? fun p ↦ if p.1 = cookieName ∧ p.2 ≠ [] then some p.2 else none := by
  rw [Browser.headers, extractToken_cookieHeader B.sends_isPair hvisible, Browser.own,
    ← List.head?_filterMap, ← List.head?_filterMap, List.filterMap_filter]
  refine congrArg List.head? (List.filterMap_congr fun p _ ↦ ?_)
  by_cases hname : p.1 = cookieName
  · rw [if_pos (decide_eq_true hname)]
  · rw [if_neg fun hboth ↦ hname hboth.1, if_neg (mt of_decide_eq_true hname)]

/-- **A session is served as long as its cookie and its token are good.** Take any run of logins and
logouts in a browser that starts without a session cookie, with other cookies coming and going in
between, and a request after all of them; cookies that are marked `Secure` need https. If no other
cookie has invisible characters, then `require_auth` lets the request pass exactly if there is a
login since the last logout, its cookie came less than a day ago, and its token was issued at most a
day and a minute ago; and it takes the request for the user of that login. If the answer of the
login took a minute at most, the cookie alone decides: a browser never sends a cookie that is
refused. -/
theorem session_served {acts : List SessionAct} (hsecure : secure = true → B.https = true)
    (h : Trace (SessionStep B J secret secure) jar acts jar')
    (hreached : ∀ a ∈ acts, a.Reached now) (hstart : B.own now jar = [])
    (hvisible : ∀ p ∈ B.sends now jar', p.1 ≠ cookieName →
      ∀ c ∈ p.1 ++ '=' :: p.2, isVisible c = true) :
    (requireAuth J secret now (B.headers now jar') =
      match (lastSession acts).filter fun s ↦ s.Good now with
      | some s => .ok s.claims
      | none => .error .unauthorized) ∧
    ∀ s, lastSession acts = some s → s.received ≤ s.claims.iat + 60 →
      (s.Good now ↔ now < s.received + 86400) := by
  have hkeeps := keeps_of_trace hsecure h hreached hstart
  refine ⟨?_, fun s hs hprompt ↦ ?_⟩
  · have hall : ∀ p ∈ B.sends now jar', ∀ c ∈ p.1 ++ '=' :: p.2, isVisible c = true := by
      intro p hp
      by_cases hname : p.1 = cookieName
      · exact visible_of_keeps hkeeps p (List.mem_filter.2 ⟨hp, decide_eq_true hname⟩)
      · exact hvisible p hp hname
    rw [requireAuth, extractToken_headers hall]
    cases hlast : lastSession acts with
    | none =>
      rw [hlast] at hkeeps
      have hown : B.own now jar' = [] := hkeeps
      rw [hown]
      rfl
    | some s =>
      rw [hlast] at hkeeps
      obtain ⟨token, hencode, hown⟩ := hkeeps
      rw [hown]
      by_cases hcookie : now < s.received + 86400
      · rw [if_pos hcookie, List.findSome?_cons, if_pos ⟨rfl, (J.encode_chars hencode).1⟩]
        show (match J.decode now token secret with
          | none => Except.error AppError.unauthorized
          | some claims => Except.ok claims) = _
        rw [J.decode_encode now hencode]
        by_cases htoken : now ≤ s.claims.exp + 60
        · rw [if_pos htoken, Option.filter_some, if_pos (decide_eq_true ⟨hcookie, htoken⟩)]
        · rw [if_neg htoken, Option.filter_some,
            if_neg (mt of_decide_eq_true fun hgood ↦ htoken hgood.2)]
      · rw [if_neg hcookie, Option.filter_some,
          if_neg (mt of_decide_eq_true fun hgood ↦ hcookie hgood.1)]
        rfl
  · have hexp := exp_of_lastSession hs
    rw [BrowserSession.Good]
    omega

end Served

/-! ### A browser -/

instance (name value : Chars) : Decidable (IsPair name value) :=
  decidable_of_iff (name ≠ [] ∧ '=' ∉ name ∧ ';' ∉ name ++ value ∧
      strip isHeaderBlank name = name ∧ strip isHeaderBlank value = value)
    ⟨fun ⟨h₁, h₂, h₃, h₄, h₅⟩ ↦ ⟨h₁, h₂, h₃, h₄, h₅⟩,
      fun ⟨h₁, h₂, h₃, h₄, h₅⟩ ↦ ⟨h₁, h₂, h₃, h₄, h₅⟩⟩

/-- A cookie that is kept until a time. -/
structure KeptCookie where
  name : Chars
  value : Chars
  expires : ℕ
  isPair : IsPair name value

/-- The age an attribute gives. -/
def ageOf (field : Chars) : Option ℕ :=
  match splitOnce '=' field with
  | some (key, value) =>
    if strip isHeaderBlank key = "Max-Age".toList then digitsIn 10 value else none
  | none => none

/-- The age among the attributes of a cookie. -/
def maxAge (attributes : List Chars) : Option ℕ := attributes.findSome? ageOf

/-- A cookie in the place of that of its name. -/
def putCookie (name value : Chars) (expires : ℕ) (jar : List KeptCookie) : List KeptCookie :=
  if h : IsPair name value then
    jar.filter (fun kept ↦ kept.name ≠ name) ++ [⟨name, value, expires, h⟩]
  else jar

/-- The name and the value are what stands before the first semicolon, around the first equals
sign; a cookie without an age goes at once. -/
def keepCookie (now : ℕ) (header : Chars) (jar : List KeptCookie) : List KeptCookie :=
  match header.splitOn ';' with
  | [] => jar
  | pair :: attributes =>
    match splitOnce '=' pair with
    | none => jar
    | some (name, value) =>
      putCookie (strip isHeaderBlank name) (strip isHeaderBlank value)
        (now + (maxAge attributes).getD 0) jar

section Kept

variable {name value : Chars}

/-- The parts of a `Set-Cookie` header. -/
theorem splitOn_setCookieText {attributes : List String} (hpair : ';' ∉ name ++ value)
    (hattributes : ∀ a ∈ attributes, ';' ∉ a.toList) :
    (setCookieText name value attributes).splitOn ';' =
      (name ++ '=' :: value) :: attributes.map fun a ↦ ' ' :: a.toList := by
  have htext : setCookieText name value attributes =
      [';'].intercalate ((name ++ '=' :: value) :: attributes.map fun a ↦ ' ' :: a.toList) := by
    rw [setCookieText]
    generalize name ++ '=' :: value = part
    clear hattributes
    induction attributes generalizing part with
    | nil => simp
    | cons a attributes ih =>
      rw [List.flatMap_cons, List.map_cons, List.intercalate_cons_cons, ← ih]
      simp
  rw [htext]
  refine List.splitOn_intercalate ';' ?_ (List.cons_ne_nil _ _)
  intro l hl
  rcases List.mem_cons.1 hl with rfl | hl
  · intro hmem
    refine hpair (List.mem_append.2 ((List.mem_append.1 hmem).imp_right fun hv ↦ ?_))
    exact List.mem_of_ne_of_mem (by decide) hv
  · obtain ⟨a, ha, rfl⟩ := List.mem_map.1 hl
    exact fun hmem ↦ hattributes a ha (List.mem_of_ne_of_mem (by decide) hmem)

theorem not_mem_cookieAttributes {age : ℕ} {secure : Bool} :
    ∀ a ∈ cookieAttributes age secure, ';' ∉ a.toList := by
  have hage : ';' ∉ ("Max-Age=" ++ age.repr).toList := by
    rw [String.toList_append, Nat.toList_repr, List.mem_append]
    rintro (hmem | hmem)
    · revert hmem
      decide
    · exact absurd (Nat.isDigit_of_mem_toDigits (by omega) (by omega) hmem) (by decide)
  have hfixed : ∀ a ∈ ["HttpOnly", "SameSite=Lax", "Path=/", "Secure"], ';' ∉ a.toList := by decide
  intro a ha
  rcases List.mem_append.1 ha with ha | ha
  · simp only [List.mem_cons, List.not_mem_nil, or_false] at ha
    rcases ha with rfl | rfl | rfl | rfl
    · exact hfixed _ (by simp)
    · exact hfixed _ (by simp)
    · exact hfixed _ (by simp)
    · exact hage
  · cases secure with
    | true =>
      obtain rfl := List.mem_singleton.1 ha
      exact hfixed _ (by simp)
    | false => cases ha

theorem ageOf_repr (age : ℕ) : ageOf (' ' :: ("Max-Age=" ++ age.repr).toList) = some age := by
  have hname : '=' ∉ " Max-Age".toList := by decide
  have hsplit : splitOnce '=' (' ' :: ("Max-Age=" ++ age.repr).toList) =
      some (" Max-Age".toList, Nat.toDigits 10 age) := by
    rw [String.toList_append, Nat.toList_repr]
    exact splitOnce_append hname
  have hdigits : digitsIn 10 (Nat.toDigits 10 age) = some age := by
    rw [digitsIn_ten Nat.toDigits_ne_nil fun c hc ↦
      Nat.isDigit_of_mem_toDigits (by omega) (by omega) hc, Nat.ofDigitChars_ten_toDigits]
  rw [ageOf, hsplit]
  exact (if_pos (by decide)).trans hdigits

theorem maxAge_cookieAttributes (age : ℕ) (secure : Bool) :
    maxAge ((cookieAttributes age secure).map fun a ↦ ' ' :: a.toList) = some age := by
  have hothers : ∀ a ∈ ["HttpOnly", "SameSite=Lax", "Path=/"], ageOf (' ' :: a.toList) = none := by
    decide
  rw [cookieAttributes, List.map_append, maxAge, List.findSome?_append]
  simp only [List.map_cons, List.findSome?_cons, hothers "HttpOnly" (by simp),
    hothers "SameSite=Lax" (by simp), hothers "Path=/" (by simp), ageOf_repr, Option.some_or]

/-- A browser that keeps cookies as they ask for it, over a secure channel. -/
def plainBrowser : Browser (List KeptCookie) where
  https := true
  receive := keepCookie
  sends now jar := (jar.filter fun kept ↦ now < kept.expires).map fun kept ↦ (kept.name, kept.value)
  sends_isPair p hp := by
    obtain ⟨kept, -, rfl⟩ := List.mem_map.1 hp
    exact kept.isPair
  sends_receive {name value age secure now later} jar hpair _ _ := by
    have hkept : keepCookie now (setCookieText name value (cookieAttributes age secure)) jar =
        jar.filter (fun kept ↦ kept.name ≠ name) ++ [⟨name, value, now + age, hpair⟩] := by
      rw [keepCookie, splitOn_setCookieText hpair.noSemicolon not_mem_cookieAttributes]
      simp only [splitOnce_append hpair.noEquals, hpair.nameTrimmed, hpair.valueTrimmed,
        maxAge_cookieAttributes, Option.getD_some, putCookie, dif_pos hpair]
    rw [hkept, List.filter_append, List.map_append, List.filter_append]
    have hothers : (((jar.filter fun kept ↦ kept.name ≠ name).filter fun kept ↦
        later < kept.expires).map fun kept ↦ (kept.name, kept.value)).filter
          (fun p ↦ p.1 = name) = [] := by
      refine List.filter_eq_nil_iff.2 fun p hp ↦ ?_
      obtain ⟨kept, hkept, rfl⟩ := List.mem_map.1 hp
      have hne := (List.mem_filter.1 (List.mem_filter.1 hkept).1).2
      simpa using hne
    rw [hothers, List.nil_append]
    by_cases hlater : later < now + age
    · rw [if_pos hlater]
      simp [hlater]
    · rw [if_neg hlater]
      simp [hlater]

end Kept

/-! ### A login next to another cookie -/

def sampleTokenClaims : TokenClaims := .new 1000 7 "ada" "admin"

def sampleToken : Chars := "e30.e30.c2ln".toList

/-- One token of one key. -/
def sampleJwt : Jwt where
  encode claims secret :=
    if claims = sampleTokenClaims ∧ secret = "secret" then some sampleToken else none
  decode now token secret :=
    if token = sampleToken ∧ secret = "secret" ∧ now ≤ sampleTokenClaims.exp + 60 then
      some sampleTokenClaims
    else none
  encode_chars {claims secret token} h := by
    split at h
    · obtain rfl := Option.some.inj h
      have hchars : sampleToken.all isTokenChar = true := by decide
      exact ⟨by decide, List.all_eq_true.1 hchars⟩
    · cases h
  decode_encode {claims secret token} now h := by
    split at h
    · rename_i hclaims
      obtain ⟨rfl, rfl⟩ := hclaims
      obtain rfl := Option.some.inj h
      by_cases hnow : now ≤ sampleTokenClaims.exp + 60
      · rw [if_pos ⟨rfl, rfl, hnow⟩, if_pos hnow]
      · rw [if_neg fun hall ↦ hnow hall.2.2, if_neg hnow]
    · cases h

/-- A cookie of another program on the same host. -/
def sampleTheme : KeptCookie := ⟨"theme".toList, "dark".toList, 10 ^ 9, by decide⟩

def sampleJar : List KeptCookie := keepCookie 1005 (sessionCookie false sampleToken) [sampleTheme]

theorem trace_sampleJar : Trace (SessionStep plainBrowser sampleJwt "secret" false) []
    [.other, .login 1000 7 "ada" "admin" 1005] sampleJar := by
  have hown : ∀ now, plainBrowser.own now [sampleTheme] = plainBrowser.own now [] := by
    intro now
    have hname : sampleTheme.name ≠ cookieName := by decide
    simp only [plainBrowser, Browser.own, List.filter_nil, List.map_nil]
    by_cases hnow : now < sampleTheme.expires <;> simp [hnow, hname]
  have hencode : sampleJwt.encode (.new 1000 7 "ada" "admin") "secret" = some sampleToken := by
    rfl
  exact .cons (.other hown) (.cons (.login hencode) (.nil _))

/-- A request half a day later carries both cookies. -/
theorem session_served_later :
    requireAuth sampleJwt "secret" 44000 (plainBrowser.headers 44000 sampleJar) =
      .ok sampleTokenClaims := by
  have hreached : ∀ a ∈ [SessionAct.other, .login 1000 7 "ada" "admin" 1005], a.Reached 44000 := by
    intro a ha
    rcases List.mem_pair.1 ha with rfl | rfl
    · exact trivial
    · exact (by decide : 1005 ≤ 44000)
  have hvisible : ∀ p ∈ plainBrowser.sends 44000 sampleJar, p.1 ≠ cookieName →
      (p.1 ++ '=' :: p.2).all isVisible = true := by decide
  exact (session_served (fun h ↦ by cases h) trace_sampleJar hreached rfl
    fun p hp hname ↦ List.all_eq_true.1 (hvisible p hp hname)).1

end VyosFabric
