import Imapdl.Basic
import Imapdl.Verification
import Imapdl.Maildir
import Imapdl.Protocol
import Imapdl.Client.Defs
import Imapdl.Client.Spec
import Imapdl.Client.Invariant
import Imapdl.Client.Ingest
import Imapdl.Client.Uids
import Imapdl.Client.Quit
import Imapdl.Client.Tags
import Imapdl.Client.Refinement
import Imapdl.Server
import Imapdl.Client.Session
import Imapdl.Client.Expunge
import Imapdl.Client.Progress
import Imapdl.Client.Timers
import Imapdl.Client.Chunks
