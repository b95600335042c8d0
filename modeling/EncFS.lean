import EncFS.Libc.Getopt
import EncFS.Libc.Strtol
import EncFS.Args.Basic
import EncFS.Args.ProcessArgs
import EncFS.Args.Loop
import EncFS.Args.SubdirCheck
import EncFS.Args.Properties
import EncFS.Args.Spelling
import EncFS.Args.Permutation
import EncFS.Args.Accepted
import EncFS.Args.Settings
import EncFS.Args.Labels
import EncFS.Mount.Timeout
import EncFS.Mount.Threads
import EncFS.Mount.Invariant
import EncFS.Mount.Shutdown
import EncFS.Mount.Progress
import EncFS.Driver.Main
import EncFS.Driver.Properties
