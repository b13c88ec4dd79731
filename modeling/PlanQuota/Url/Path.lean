import PlanQuota.Text.Digits
import PlanQuota.Url.Basic
import PlanQuota.Url.Percent
import PlanQuota.Url.Scheme

/-!
Reading the path of a URL. Dots are resolved while the segments are read, so a path holds no
segment that means another place. In the path of a file URL the first segment may be a drive,
written as a letter and a colon; two dots do not lead out of a drive.
-/
namespace PlanQuota.UrlPath

/-- A dot may be written as an escape. -/
def undotted (s : List Char) : List Char :=
  match s with
  | '%' :: '2' :: e :: r => if e = 'e' ∨ e = 'E' then '.' :: undotted r else '%' :: '2' :: e :: r
  | '.' :: r => '.' :: undotted r
  | _ => s

def isSingleDot (s : List Char) : Bool := undotted s = ['.']

def isDoubleDot (s : List Char) : Bool := undotted s = ['.', '.']

/-- A letter and a colon or a bar: the root of a drive. -/
def isDrive : List Char → Bool
  | [c, d] => c.isAlpha && (d = ':' || d = '|')
  | _ => false

/-- Whether two dots after a segment leave it: it reads as a drive, up to a backslash. -/
def staysUnderDots (s : List Char) : Bool := isDrive (s.takeWhile (· ≠ '\\'))

/-- A drive and what follows it in one piece of a text, if a tab or line end stands between. -/
def cutDrive? (s : List Char) : Option (List Char × List Char) :=
  match s.dropWhile isLayout with
  | c :: r =>
    match r.dropWhile isLayout with
    | ':' :: t :: rest =>
      if c.isAlpha ∧ isLayout t ∧ withoutLayout rest ≠ [] then some ([c, ':'], withoutLayout rest)
      else none
    | _ => none
  | [] => none

/-- A path while it is read: its segments, in reverse, and whether the first was read as a drive. -/
structure Trail where
  segments : List (List Char)
  onDrive : Bool
  deriving DecidableEq, Repr

namespace Trail

/-- Drops the last segment. -/
def up (t : Trail) : Trail :=
  match t.segments with
  | s :: rest => if staysUnderDots s then t else { t with segments := rest }
  | [] => t

/-- Adds a segment as it is, with its marks escaped. -/
def add (t : Trail) (s : List Char) : Trail :=
  { t with segments := Percent.encode Percent.inPath s :: t.segments }

/-- Adds a segment; at the front of a file path it may be a drive. -/
def push (r : SchemeRules) (t : Trail) (s : List Char) : Trail :=
  if r.isFile && t.segments.isEmpty && isDrive s then ⟨[s.take 1 ++ [':']], true⟩ else t.add s

/-- Resolves a segment. At the end of a path a dot segment stands for an empty one. -/
def resolve (r : SchemeRules) (t : Trail) (s : List Char) (isLast : Bool) : Trail :=
  if isDoubleDot s then
    if isLast then t.up.add [] else t.up
  else if isSingleDot s then
    if isLast then t.add [] else t
  else t.push r s

/-- Reads the text of a segment. -/
def read (r : SchemeRules) (t : Trail) (text : List Char) (isLast : Bool) : Trail :=
  match if r.isFile && t.segments.isEmpty then cutDrive? text else none with
  | some (drive, s) => (t.add drive).add s
  | none => t.resolve r (withoutLayout text) isLast

def readAll (r : SchemeRules) (t : Trail) : List (List Char) → Trail
  | [] => t
  | [s] => t.read r s true
  | s :: rest => readAll r (t.read r s false) rest

end Trail

/-- Empty segments at the front of a file path do not count. -/
def trimFront (r : SchemeRules) : List (List Char) → List (List Char)
  | [] :: s :: rest => if r.isFile then trimFront r (s :: rest) else [] :: s :: rest
  | path => path

def Trail.path (r : SchemeRules) (t : Trail) : UrlPath :=
  .segments ((trimFront r t.segments.reverse).map String.ofList)

/-- The trail of a text after its first slash, below the segments given in reverse. -/
def trail (r : SchemeRules) (segments : List (List Char)) (text : List Char) : Trail :=
  Trail.readAll r ⟨segments, false⟩ (splitBy r.isSlash text)

def extend (r : SchemeRules) (segments : List (List Char)) (text : List Char) : UrlPath :=
  (trail r segments text).path r

/-- The trail of a text whose first slash may be there or not. -/
def rootedTrail (r : SchemeRules) (text : List Char) : Trail :=
  trail r [] ((r.afterSlash? text).getD text)

/-- A path after an authority. Only a scheme that is not special has an empty one. -/
def ofText (r : SchemeRules) (text : List Char) : UrlPath :=
  if text = [] ∧ r.isSpecial = false then .segments [] else (rootedTrail r text).path r

/-- The segments without the last one, in reverse; the drive of a file URL stays. -/
def parents (r : SchemeRules) (list : List String) : List (List Char) :=
  match list.reverse.map String.toList with
  | [c, ':'] :: rest => if r.isFile ∧ c.isAlpha then [c, ':'] :: rest else rest
  | reversed => reversed.tail

example : (extend (.ofScheme "file") [] "a/./C|/../b".toList).toText = "/a/C|/b" := by
  decide +kernel
example : (ofText (.ofScheme "file") "/x/../C|/..".toList).toText = "/C:/" := by decide +kernel

end PlanQuota.UrlPath
