import FtpServer.Library.Blocks
import FtpServer.Library.Calendar
import FtpServer.Library.Decimal
import FtpServer.Library.Disk
import FtpServer.Library.Effect
import FtpServer.Library.FileImage
import FtpServer.Library.Groups
import FtpServer.Library.Ledger
import FtpServer.Library.Lines
import FtpServer.Library.LittleEndian
import FtpServer.Library.Pacing
import FtpServer.Library.PathText
import FtpServer.Library.Roster
import FtpServer.Library.Stripping
import FtpServer.Library.Symlinks
import FtpServer.Library.Tiling
import FtpServer.Model.Config
import FtpServer.Model.Daemon
import FtpServer.Proofs.Accepting
import FtpServer.Proofs.Agreement
import FtpServer.Proofs.Answers
import FtpServer.Proofs.Assigned
import FtpServer.Proofs.Authority
import FtpServer.Proofs.Bandwidth
import FtpServer.Proofs.Canonicalizer
import FtpServer.Proofs.Clients
import FtpServer.Proofs.CommandBuffer
import FtpServer.Proofs.CommandLine
import FtpServer.Proofs.CommandPool
import FtpServer.Proofs.Commands
import FtpServer.Proofs.ConfigFile
import FtpServer.Proofs.ConfigLines
import FtpServer.Proofs.ConfigReference
import FtpServer.Proofs.Configuration
import FtpServer.Proofs.ControlLoop
import FtpServer.Proofs.ConvertTime
import FtpServer.Proofs.Descriptors
import FtpServer.Proofs.Directory
import FtpServer.Proofs.Exchange
import FtpServer.Proofs.FileNames
import FtpServer.Proofs.FileTrace
import FtpServer.Proofs.FollowedLinks
import FtpServer.Proofs.Handlers
import FtpServer.Proofs.Handles
import FtpServer.Proofs.Jail
import FtpServer.Proofs.LeapYears
import FtpServer.Proofs.Leaving
import FtpServer.Proofs.ListCommand
import FtpServer.Proofs.ListOptions
import FtpServer.Proofs.Listing
import FtpServer.Proofs.ListingLine
import FtpServer.Proofs.Login
import FtpServer.Proofs.Master
import FtpServer.Proofs.MasterTrace
import FtpServer.Proofs.Mdtm
import FtpServer.Proofs.Messages
import FtpServer.Proofs.Mirror
import FtpServer.Proofs.PasvPorts
import FtpServer.Proofs.PathBuffer
import FtpServer.Proofs.Pipe
import FtpServer.Proofs.Pools
import FtpServer.Proofs.Products
import FtpServer.Proofs.Quit
import FtpServer.Proofs.Realpath
import FtpServer.Proofs.Reaping
import FtpServer.Proofs.Registry
import FtpServer.Proofs.Replies
import FtpServer.Proofs.ReplyLines
import FtpServer.Proofs.ReplySizes
import FtpServer.Proofs.Requests
import FtpServer.Proofs.RestAnswer
import FtpServer.Proofs.Restart
import FtpServer.Proofs.Retrieve
import FtpServer.Proofs.RoundTrip
import FtpServer.Proofs.Seen
import FtpServer.Proofs.Sendall
import FtpServer.Proofs.Sending
import FtpServer.Proofs.Shutdown
import FtpServer.Proofs.Signals
import FtpServer.Proofs.StatePipe
import FtpServer.Proofs.Store
import FtpServer.Proofs.Strings
import FtpServer.Proofs.Throttle
import FtpServer.Proofs.Trim
import FtpServer.Proofs.Unauthenticated
import FtpServer.Proofs.Upload
import FtpServer.Proofs.UploadAnswer
