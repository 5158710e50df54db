import PartCache.Store.Layout

/-!
# Paths of a zone's files below its root

The zone reaches its files by joining names onto its root directory, the way the standard
library joins paths on Unix: a path that starts with `/` replaces what it is joined to, and
otherwise a `/` goes between the two unless the first is empty or already ends with one.  An
object's directory is the root joined with its namespace and its three digest names
(`Layout.objectDir`), one after the other; its metadata file and its part files are that
directory joined with one more name.
-/

namespace PartCache

set_option autoImplicit false

/-- Joins `p` onto `base` as the standard library does on Unix. -/
def pathJoin (base p : String) : String :=
  if p.startsWith "/" then p
  else match base.toList.getLast? with
    | none | some '/' => base ++ p
    | some _ => base ++ "/" ++ p

namespace Layout

/-- The directory of an object below a zone root: the root joined with the namespace and the
three digest names in turn. -/
def objectDirIn (root : String) (id : ObjectId) : String := (objectDir id).foldl pathJoin root

/-- The metadata file of an object below a zone root. -/
def metadataPathIn (root : String) (id : ObjectId) : String :=
  pathJoin (objectDirIn root id) metadataFile

/-- The file of a part below a zone root. -/
def partPathIn (root : String) (i : PartIndex) : String :=
  pathJoin (objectDirIn root i.object) (partFileName i.part)

end Layout

end PartCache
