import Scad.Fault

/-!
What stands under a path when nothing is known of the file system but the
directories that every system has. A path is walked part by part; the first
part that is not there, or is too long for a name, decides.
-/

namespace Scad

inductive Located where
  | file (text : String)
  | directory
  | absent (why : Fault)

namespace Path

def split (part : List Char) : List Char → List (List Char)
  | [] => [part.reverse]
  | '/' :: cs => part.reverse :: split [] cs
  | c :: cs => split (c :: part) cs

/-- The parts that lead somewhere: neither empty nor a single dot. -/
def parts (cs : List Char) : List (List Char) :=
  (split [] cs).filter fun p => !p.isEmpty && p != ['.']

/-- The slashes at the front. Two keep a meaning of their own, more are one. -/
def rootLength (cs : List Char) : Nat :=
  match (cs.takeWhile (· == '/')).length with
  | 2 => 2
  | 0 => 0
  | _ => 1

def byteLength (cs : List Char) : Nat := (String.ofList cs).utf8ByteSize

/-- The length of the path written with single slashes between its parts. -/
def length (cs : List Char) : Nat :=
  max 1 ((parts cs).foldl (fun n part => n + byteLength part + 1) (rootLength cs) - 1)

def lengthLimit : Nat := 4096

def partLimit : Nat := 255

def standardDirectories : List String :=
  ["bin", "boot", "dev", "etc", "home", "lib", "media", "mnt", "opt", "proc", "root", "run", "sbin",
    "srv", "sys", "tmp", "usr", "var"]

/-- Where a walk has come to: a directory below the root, with the parts that
lead to it in reverse, or one of unknown place. -/
inductive Place where
  | rooted (back : List String)
  | somewhere

def Place.enter (part : String) : Place → Located × Place
  | .rooted back =>
    if part = ".." then (.directory, .rooted back.tail)
    else if back.isEmpty && standardDirectories.contains part then (.directory, .rooted [part])
    else if back = ["dev"] && part = "null" then (.file "", .somewhere)
    else (.absent .missingFile, .somewhere)
  | .somewhere =>
    if part = ".." then (.directory, .somewhere) else (.absent .missingFile, .somewhere)

def walk (place : Place) : List (List Char) → Located
  | [] => .directory
  | part :: rest =>
    if partLimit < byteLength part then .absent .pathTooLong
    else
      match place.enter (String.ofList part) with
      | (.directory, next) => walk next rest
      | (.file text, _) => if rest.isEmpty then .file text else .absent .notDirectory
      | (.absent why, _) => .absent why

/-- What stands under a path. The empty path is where one is. -/
def locate (path : String) : Located :=
  let cs := path.toList
  if cs.contains (Char.ofNat 0) then .absent .pathWithNull
  else if lengthLimit ≤ length cs then .absent .pathTooLong
  else walk (if rootLength cs = 0 then .somewhere else .rooted []) (parts cs)

end Path
end Scad
