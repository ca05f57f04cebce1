import PackageClosure.Shell.Utility.Blocks
import PackageClosure.Shell.Utility.Checking
import PackageClosure.Shell.Utility.Clock
import PackageClosure.Shell.Utility.Comparing
import PackageClosure.Shell.Utility.Dumping
import PackageClosure.Shell.Utility.Editing
import PackageClosure.Shell.Utility.Finding
import PackageClosure.Shell.Utility.Folding
import PackageClosure.Shell.Utility.Installing
import PackageClosure.Shell.Utility.Listing
import PackageClosure.Shell.Utility.Numbering
import PackageClosure.Shell.Utility.Search
import PackageClosure.Shell.Utility.Sequence
import PackageClosure.Shell.Utility.Values
import PackageClosure.Shell.Utility.Various

set_option autoImplicit false

namespace PackageClosure.Shell.Utility

def catalog : List (String × Utility) :=
  [("true", fun _ => return 0), ("false", fun _ => return 1), ("sync", synchronize),
    ("sleep", sleep), ("echo", echoPlainly), ("printf", printFormatted),
    ("test", decideCondition), ("[", decideBracketed), ("pwd", printWorkingDirectory),
    ("dirname", printDirectory), ("basename", printBase), ("readlink", readLink),
    ("realpath", realPath), ("ls", listNames), ("mkdir", makeDirectory),
    ("rmdir", removeDirectory), ("rm", remove), ("unlink", removeLink), ("touch", touch),
    ("chmod", changeMode), ("mv", move), ("cp", copy), ("ln", link), ("cat", concatenate),
    ("head", showHead), ("tail", showTail), ("wc", countWords), ("tee", tee),
    ("tac", reverseLines), ("rev", reverseCharacters), ("seq", sequenceNumbers), ("cut", cut),
    ("tr", translate), ("sort", sortLines), ("uniq", uniqueLines), ("paste", pasteLines),
    ("grep", searchLines none), ("egrep", searchLines (some 'E')),
    ("fgrep", searchLines (some 'F')), ("sed", editLines), ("expr", showValue),
    ("cmp", compareFiles), ("sha256sum", showDigests .sha256),
    ("sha1sum", showDigests .sha1), ("md5sum", showDigests .md5),
    ("sha224sum", showDigests .sha224), ("sha384sum", showDigests .sha384),
    ("sha512sum", showDigests .sha512), ("b2sum", showMixedDigests), ("sum", showSums),
    ("cksum", showCyclicSums),
    ("mktemp", makeTemporary), ("which", locate),
    ("printenv", printEnvironment), ("uname", nameSystem), ("yes", repeatLine),
    ("date", tellTime), ("id", tellUser), ("whoami", tellAlways "root"),
    ("arch", tellAlways "x86_64"), ("install", install),
    ("truncate", truncate), ("base64", convertBase64), ("stat", tellAttributes),
    ("chown", changeOwner false), ("chgrp", changeOwner true), ("link", linkPlainly),
    ("fold", foldLines), ("expand", expandTabs), ("unexpand", unexpandBlanks),
    ("nl", numberLines), ("od", dumpBytes), ("dd", copyBlocks), ("diff", showDifference)]

def named? (name : String) : Option Utility := catalog.lookup name

def launchers : List String :=
  ["sh", "dash", "env", "xargs", "find", "timeout", "nohup", "nice", "stdbuf", "setsid", "awk",
    "mawk"]

def systemPrograms : List String := launchers ++ catalog.map Prod.fst

end PackageClosure.Shell.Utility
