import FloodRisk.Lib.PythonValue

/-! # The parts of a URL (urllib.parse)

`urlsplit` and the properties of its result. What Unicode says of a text, and which addresses may
stand in brackets, are parameters. -/

namespace Python

structure UrlRules where
  nfkc : Text → Text
  lower : Text → Text
  bracketed : Text → Bool

structure UrlParts where
  scheme : Text
  netloc : Text
  path : Text
  query : Text
  fragment : Text
  deriving DecidableEq

def CodePoint.isOneOf (c : CodePoint) (chars : List Char) : Bool := c ∈ chars.map CodePoint.scalar

def CodePoint.isAscii : CodePoint → Bool
  | .scalar c => c.toNat < 128
  | .surrogate _ => false

/-- `partition`: before the first of a character, and after it where there is one. -/
def partition (c : Char) (t : Text) : Text × Option Text :=
  (t.takeWhile fun d => d ≠ .scalar c,
    match t.dropWhile fun d => d ≠ .scalar c with
    | [] => none
    | _ :: rest => some rest)

theorem partition_eq_some {c : Char} {t front rest : Text} (h : partition c t = (front, some rest)) :
    t = front ++ .scalar c :: rest ∧ front = t.takeWhile fun d => d ≠ .scalar c := by
  unfold partition at h
  obtain ⟨hfront, hrest⟩ := Prod.mk.inj h
  refine ⟨?_, hfront.symm⟩
  have hdrop : t.dropWhile (fun d => d ≠ .scalar c) = .scalar c :: rest := by
    have hnot := List.head?_dropWhile_not (fun d => d ≠ .scalar c) t
    cases hdrop : t.dropWhile fun d => d ≠ .scalar c with
    | nil =>
      rw [hdrop] at hrest
      cases hrest
    | cons d others =>
      rw [hdrop] at hrest hnot
      cases hrest
      have hd : d = .scalar c := by simpa using hnot
      rw [hd]
  calc t = t.takeWhile (fun d => d ≠ .scalar c) ++ t.dropWhile (fun d => d ≠ .scalar c) :=
        List.takeWhile_append_dropWhile.symm
    _ = front ++ .scalar c :: rest := by rw [hdrop, hfront]

/-- `rpartition('@')[2]`. -/
def afterLast (c : Char) (t : Text) : Text := (t.reverse.takeWhile fun d => d ≠ .scalar c).reverse

/-- The value of a hexadecimal digit. -/
def digitOf : CodePoint → Option ℕ
  | .scalar c =>
      if '0' ≤ c ∧ c ≤ '9' then some (c.toNat - '0'.toNat)
      else if 'a' ≤ c ∧ c ≤ 'f' then some (c.toNat - 'a'.toNat + 10)
      else if 'A' ≤ c ∧ c ≤ 'F' then some (c.toNat - 'A'.toNat + 10)
      else none
  | .surrogate _ => none

def isSchemeStart : CodePoint → Bool
  | .scalar c => c.isAlpha
  | .surrogate _ => false

def isSchemeChar : CodePoint → Bool
  | .scalar c => c.isAlphanum || c = '+' || c = '-' || c = '.'
  | .surrogate _ => false

def lowerAscii : CodePoint → CodePoint
  | .scalar c => .scalar c.toLower
  | c => c

/-- What `urlsplit` removes at the start and everywhere. -/
def cleanUrl (url : Text) : Text :=
  (url.dropWhile fun c =>
    match c with
    | .scalar c => c.toNat ≤ 32
    | .surrogate _ => false).filter fun c => !c.isOneOf ['\t', '\r', '\n']

def splitScheme (url : Text) : Text × Text :=
  match partition ':' url with
  | (front, some rest) =>
      if front.head?.any isSchemeStart && front.all isSchemeChar then (front.map lowerAscii, rest)
      else ([], url)
  | (_, none) => ([], url)

/-- The authority, which ends before the next `/`, `?` or `#`. -/
def splitNetloc (url : Text) : Text × Text :=
  match url with
  | .scalar '/' :: .scalar '/' :: rest =>
      (rest.takeWhile fun c => !c.isOneOf ['/', '?', '#'],
        rest.dropWhile fun c => !c.isOneOf ['/', '?', '#'])
  | _ => ([], url)

variable (rules : UrlRules)

/-- `_checknetloc`. -/
def checkNetloc (netloc : Text) : Bool :=
  let kept := netloc.filter fun c => !c.isOneOf ['@', ':', '#', '?']
  netloc.all CodePoint.isAscii || rules.nfkc kept = kept || (rules.nfkc kept).all fun c => !c.isOneOf ['/', '?', '#', '@', ':']

def checkBrackets (netloc : Text) : Bool :=
  let opens := CodePoint.scalar '[' ∈ netloc
  let closes := CodePoint.scalar ']' ∈ netloc
  decide (opens ↔ closes) && (!decide opens || rules.bracketed netloc)

/-- `urlsplit`; nothing where it raises `ValueError`. -/
def urlsplit (url : Text) : Option UrlParts :=
  let (scheme, afterScheme) := splitScheme (cleanUrl url)
  let (netloc, afterNetloc) := splitNetloc afterScheme
  let (beforeFragment, fragment) := partition '#' afterNetloc
  let (path, query) := partition '?' beforeFragment
  if checkBrackets rules netloc && checkNetloc rules netloc then
    some ⟨scheme, netloc, path, query.getD [], fragment.getD []⟩
  else none

namespace UrlParts

variable (parts : UrlParts)

/-- `_hostinfo`: the host and what follows its colon. -/
def hostinfo : Text × Text :=
  let info := afterLast '@' parts.netloc
  match partition '[' info with
  | (_, some bracketed) =>
      let (host, rest) := partition ']' bracketed
      (host, ((partition ':' (rest.getD [])).2).getD [])
  | (_, none) => ((partition ':' info).1, (partition ':' info).2.getD [])

/-- `hostname`: the zone of an address keeps its case. -/
def hostname : Option Text :=
  if parts.hostinfo.1 = [] then none
  else
    let (host, zone) := partition '%' parts.hostinfo.1
    some (rules.lower host ++ ((zone.map fun zone => .scalar '%' :: zone).getD []))

def portDigits : Option ℕ :=
  if parts.hostinfo.2.all fun c =>
    match c with
    | .scalar c => c.isDigit
    | .surrogate _ => false
  then some ((shown parts.hostinfo.2).toList.foldl (fun n c => n * 10 + (c.toNat - '0'.toNat)) 0)
  else none

/-- `port`; nothing where reading it raises. -/
def port : Option (Option ℕ) :=
  if parts.hostinfo.2 = [] then some none
  else
    match parts.portDigits with
    | some n => if n ≤ 65535 then some (some n) else none
    | none => none

def usesParams : List Text :=
  ["", "ftp", "hdl", "prospero", "http", "https", "shttp", "rtsp", "rtsps", "rtspu", "sip", "sips",
    "mms", "sftp", "tel"].map text

/-- The `path` of `urlparse`, which leaves out the parameters of the last segment. -/
def parsedPath : Text :=
  if parts.scheme ∈ usesParams then
    let segment := afterLast '/' parts.path
    parts.path.take (parts.path.length - segment.length) ++ (partition ';' segment).1
  else parts.path

/-- `username is not None or password is not None`. -/
def hasUserinfo : Bool := CodePoint.scalar '@' ∈ parts.netloc

end UrlParts

end Python
