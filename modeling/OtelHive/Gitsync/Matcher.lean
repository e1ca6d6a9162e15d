import OtelHive.Gitsync.Types

/-!
# `OtelHive.Gitsync.Matcher`: rules from file paths

`internal/gitsync/matcher.go`. Paths are read character by character, with the functions of
Go's `strings` and `path` packages that the source calls. `path.Clean` and `path.Ext` look
only at slashes and dots.
-/

set_option autoImplicit false

namespace OtelHive.Gitsync

open OtelHive.Lib

/-! ### Path helpers -/

/-- One element of the path, on the stack of the elements kept so far (last one first). A
`..` removes the element before it. At the front it stays, except in a rooted path. -/
def cleanStep (rooted : Bool) (stack : List (List Char)) (element : List Char) :
    List (List Char) :=
  if element = [] || element = ['.'] then stack
  else if element = ['.', '.'] then
    match stack with
    | top :: below =>
      if top = ['.', '.'] then element :: stack else below
    | [] => if rooted then [] else [element]
  else element :: stack

/-- `path.Clean`. -/
def clean (p : List Char) : List Char :=
  let rooted := p.head? == some '/'
  let elements := (p.splitOn '/').foldl (cleanStep rooted) []
  let body := ['/'].intercalate elements.reverse
  if rooted then '/' :: body else if body = [] then ['.'] else body

/-- `path.Ext`: from the last dot of the last element, with the dot. -/
def ext (p : List Char) : List Char :=
  let tail := p.reverse.takeWhile fun c => c != '.' && c != '/'
  match p.reverse.drop tail.length with
  | '.' :: _ => '.' :: tail.reverse
  | _ => []

/-- `strings.TrimSuffix`. -/
def trimSuffix (s suffix : List Char) : List Char :=
  if suffix.isSuffixOf s then s.take (s.length - suffix.length) else s

/-- `relPath`: the path below `root/`, or nothing. -/
def relPath (filePath root : List Char) : List Char :=
  let pre := root ++ ['/']
  if pre.isPrefixOf filePath then filePath.drop pre.length else []

/-- `splitPath`. Empty segments are discarded because `path.Clean` leaves none. -/
def splitPath (p : List Char) : List (List Char) :=
  (clean p).splitOn '/'

/-- `stripExt`. -/
def stripExt (filename : List Char) : List Char :=
  trimSuffix filename (ext filename)

/-! ### Rules -/

/-- The selectors of `environments/<env>/<file>`. -/
def environmentSelectors (env role : String) : GoMap String String :=
  let selectors : GoMap String String := ∅
  let selectors :=
    if env != "default" then selectors.insert "deployment.environment" env else selectors
  if role != "base" && role != "default" then selectors.insert "collector.role" role
  else selectors

/-- The selectors of a path below the config root. Other layouts have none and are
ignored. -/
def selectorsOf (rel : List Char) : Option (GoMap String String) :=
  if rel = [] then none
  else
    match splitPath rel with
    | [dir, env, file] =>
      if dir = "environments".toList then
        some (environmentSelectors (String.ofList env) (String.ofList (stripExt file)))
      else none
    | [dir, file] =>
      if dir = "groups".toList then
        some ((∅ : GoMap String String).insert "group.id" (String.ofList (stripExt file)))
      else none
    | _ => none

/-- The rule of one listed file. -/
def ruleOf (root : List Char) (e : FileEntry) : Option LabelRule :=
  (selectorsOf (relPath e.path.toList root)).map fun selectors =>
    { filePath := e.path, selectors }

/-- `ParseRules`, in listing order. -/
def parseRules (entries : List FileEntry) (configRoot : String) : List LabelRule :=
  entries.filterMap (ruleOf (trimSuffix configRoot.toList ['/']))

/-! ### Matching agents -/

/-- `labelsMatch`. A label that is missing reads as the empty string. -/
def labelsMatch (required labels : GoMap String String) : Bool :=
  required.toList.all fun (k, v) => (labels.lookup k).getD "" == v

/-- The rule selects the agent. -/
def LabelRule.selects (rule : LabelRule) (agent : Types.Agent) : Bool :=
  labelsMatch rule.selectors agent.labels

/-- `MatchAgents`. -/
def matchAgents (rule : LabelRule) (agents : List Types.Agent) : List Types.Agent :=
  agents.filter rule.selects

end OtelHive.Gitsync
