import CBPseudo.Common.CString
import CBPseudo.Common.Callbacks
import CBPseudo.Common.Cancelling
import CBPseudo.Common.Client
import CBPseudo.Common.Faulty
import CBPseudo.Common.Heap
import CBPseudo.Common.ItemList
import CBPseudo.Common.Leaks
import CBPseudo.Common.Loop
import CBPseudo.Common.Machine
import CBPseudo.Common.Memory
import CBPseudo.Common.Run
import CBPseudo.Common.SinceReset
import CBPseudo.Common.StackScript
import CBPseudo.Common.Stacks
import CBPseudo.Common.Strings
import CBPseudo.Common.Table
import CBPseudo.Desktop.Bench
import CBPseudo.Desktop.Calls
import CBPseudo.Desktop.Correspondence
import CBPseudo.Desktop.Isolation
import CBPseudo.Desktop.Polling
import CBPseudo.Desktop.Polls
import CBPseudo.Desktop.Sessions
import CBPseudo.Desktop.Transparency
import CBPseudo.Evnt.Deregistration
import CBPseudo.Evnt.Events
import CBPseudo.Evnt.Failures
import CBPseudo.Evnt.Handlers
import CBPseudo.Evnt.Idle
import CBPseudo.Evnt.IdleTrace
import CBPseudo.Evnt.Leaks
import CBPseudo.Evnt.Model.Handlers
import CBPseudo.Evnt.Model.Poll
import CBPseudo.Evnt.Paths
import CBPseudo.Evnt.Recording
import CBPseudo.Evnt.Registry
import CBPseudo.Evnt.Requests
import CBPseudo.Evnt.Toolbox
import CBPseudo.Evnt.Tracking
import CBPseudo.Exit.Interception
import CBPseudo.Exit.Model.Exit
import CBPseudo.Flex.Atomicity
import CBPseudo.Flex.Invariant
import CBPseudo.Flex.Model.Flex
import CBPseudo.Flex.Model.Settings
import CBPseudo.Flex.Operations
import CBPseudo.Flex.Refinement
import CBPseudo.Flex.Resizing
import CBPseudo.Flex.Runs
import CBPseudo.Kern.Clients
import CBPseudo.Kern.Desktop
import CBPseudo.Kern.Fail
import CBPseudo.Kern.Model.Kernel
import CBPseudo.Tbox.Calls
import CBPseudo.Tbox.Creation
import CBPseudo.Tbox.Model.Objects
import CBPseudo.Tbox.Model.SaveAs
import CBPseudo.Tbox.Model.Veneers
import CBPseudo.Tbox.Ownership
import CBPseudo.Tbox.ReadBack
import CBPseudo.Tbox.Recorders
import CBPseudo.Tbox.Records
import CBPseudo.Tbox.SaveAs
import CBPseudo.Tbox.Scripts
import CBPseudo.Tbox.Showing
import CBPseudo.Tbox.Templates
import CBPseudo.Wimp.Log
import CBPseudo.Wimp.Model.Messages
import CBPseudo.Wimp.Model.Redraw
import CBPseudo.Wimp.Model.Veneers
import CBPseudo.Wimp.Redraw
import CBPseudo.Wimp.Sends
