import RequestSchema.Settings.LookupOptions
import RequestSchema.Text.Edges

set_option autoImplicit false

/-!
# Paths of files that give settings

How a path is written once what says nothing is left out of it, and paths that start in a home
folder: with a tilde, or a tilde and the name of a user.
-/

namespace RequestSchema

/-- The pieces of a path between its slashes, without those that say nothing. -/
def pathPieces (cs : List CodePoint) : List (List CodePoint) :=
  (cs.splitBy (fun a b => a != char '/' && b != char '/')).filter fun piece =>
    piece != [char '/'] && piece != [char '.']

/-- Exactly two slashes at the start mean something else than one, and more than two do not. -/
def pathRoot (cs : List CodePoint) : List CodePoint :=
  let slashes := cs.takeWhile (· == char '/')
  if slashes.length = 2 then slashes else slashes.take 1

def normalPath (path : Text) : Text :=
  let cs := path.toList
  let normal := pathRoot cs ++ List.intercalate [char '/'] (pathPieces cs)
  if normal.isEmpty then "." else Text.ofList normal

/-- The users whose home folders are known. No file that counts lies in them. -/
def knownUsers : List Text :=
  ["root", "daemon", "bin", "sys", "sync", "games", "man", "lp", "mail", "news", "uucp", "proxy",
    "www-data", "backup", "list", "irc", "_apt", "nobody"]

def homeVariable : Text := "HOME"

/-- The home folder that the environment names, without slashes at its end. -/
def homeFolder? (environment : List (Text × Text)) : Option Text :=
  (environment.lookup homeVariable).map fun home =>
    let cs := dropTrailing (· == char '/') home.toList
    if cs.isEmpty then "/" else Text.ofList cs

/-- A path with its home folder put in; none if that is known to hold no file that counts. -/
def withHome? (environment : List (Text × Text)) (path : Text) :
    Except LookupProblem (Option Text) :=
  match (normalPath path).toList with
  | '~' :: cs =>
    let user := cs.takeWhile (· != char '/')
    if !user.isEmpty then
      if knownUsers.contains (Text.ofList user) then .ok none else .error .noHome
    else
      match homeFolder? environment with
      | none => .ok none
      | some home =>
        if home.toList.head? = some (char '~') then .error .noHome
        else .ok (some (normalPath (home ++ Text.ofList cs)))
  | cs => .ok (some (Text.ofList cs))

end RequestSchema
