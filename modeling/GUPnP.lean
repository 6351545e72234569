import GUPnP.Base.Cursor
import GUPnP.Base.Run
import GUPnP.Base.Table
import GUPnP.Base.Trace
import GUPnP.Base.WrapCounter
import GUPnP.Service.Model
import GUPnP.ServiceProxy.Proof.FirstEvents
import GUPnP.ServiceProxy.Proof.Foreign
import GUPnP.ServiceProxy.Proof.Leak
import GUPnP.Eventing.Link
import GUPnP.Eventing.SeqAgreement
import GUPnP.Service.Proof.Handlers
import GUPnP.Service.Proof.Life
import GUPnP.Service.Proof.FailOver
import GUPnP.Service.Proof.Numbering
import GUPnP.Service.Proof.Unsubscribed
import GUPnP.Service.Proof.Frame
import GUPnP.Service.Proof.Atomic
import GUPnP.Service.Proof.Lifetimes
import GUPnP.Service.Proof.Sent
import GUPnP.Service.Proof.Timers
import GUPnP.Service.Proof.Updates
import GUPnP.Service.Proof.InitialState
import GUPnP.Base.Signals
import GUPnP.ContextManager.Filter
import GUPnP.ContextManager.Model
import GUPnP.ContextManager.Proof.FilterRuns
import GUPnP.Base.Split
import GUPnP.ContextManager.Proof.References
import GUPnP.ControlPoint.Model
import GUPnP.ControlPoint.Proof.Documents
import GUPnP.ControlPoint.Proof.Proxies
import GUPnP.ControlPoint.Proof.Vanished
import GUPnP.Discovery.TypeMatch
import GUPnP.Discovery.Usn
import GUPnP.RootDevice.Model
import GUPnP.Discovery.Resolve
import GUPnP.LinuxContextManager.Model
import GUPnP.LinuxContextManager.Proof.Announced
import GUPnP.GValue.Model
import GUPnP.ServiceIntrospection.Lookup
import GUPnP.ServiceIntrospection.Model
import GUPnP.ServiceProxyAction.Model
import GUPnP.ServiceProxyAction.Call
import GUPnP.ServiceProxyAction.Proof.Results
import GUPnP.ServiceProxyAction.Proof.Agreement
import GUPnP.Base.Utf8
import GUPnP.Xml.Syntax
import GUPnP.Xml.CharData
import GUPnP.Xml.Parse
import GUPnP.GValue.Content
import GUPnP.GValue.RoundTrip
import GUPnP.Service.ActionResponse
import GUPnP.ServiceProxyAction.Proof.Serialize
import GUPnP.Control.Arguments
import GUPnP.Control.Results
import GUPnP.Acl.Proof.Tight
import GUPnP.ContextManager.Proof.BootIds
import GUPnP.NetworkManager.Model
import GUPnP.NetworkManager.Proof.Follows
import GUPnP.ConnmanManager.Model
import GUPnP.ConnmanManager.Proof.Services
import GUPnP.ConnmanManager.Proof.SingleContext
import GUPnP.HostPath.Hosting
import GUPnP.ControlPoint.Proof.DownloadRuns
import GUPnP.HttpHeaders.Model
import GUPnP.HttpHeaders.Locales
import GUPnP.LinuxContextManager.Mask
import GUPnP.HostPath.Handler
import GUPnP.HostPath.Ranges
import GUPnP.HostPath.LocalPath
import GUPnP.ServiceProxy.Notify
import GUPnP.Base.After
import GUPnP.ServiceProxy.Proof.Callbacks
import GUPnP.Service.Callbacks
import GUPnP.Service.Proof.Vetted
import GUPnP.Base.CInt
import GUPnP.Base.Select
import GUPnP.DeviceInfo.Icon
import GUPnP.DeviceInfo.Proof.Icons
import GUPnP.Discovery.ResourceTypes
import GUPnP.ServiceProxyAction.Proof.Iterator
import GUPnP.ServiceProxy.Proof.Renewal
import GUPnP.HostPath.Localised
import GUPnP.ServiceProxyAction.Proof.ArgumentStore
import GUPnP.Base.Respell
import GUPnP.HttpHeaders.RoundTrip
import GUPnP.Base.Memory
import GUPnP.Service.CamelCase
import GUPnP.Xml.Escape
import GUPnP.ServiceProxy.Proof.SeqHeader
import GUPnP.Control.Server
import GUPnP.Control.Calls
import GUPnP.Eventing.Contents
import GUPnP.Base.Replica
import GUPnP.Service.Proof.Published
import GUPnP.Eventing.Mirror
import GUPnP.Eventing.Lease
import GUPnP.Base.Refs
import GUPnP.ContextManager.Managed
import GUPnP.ContextManager.Proof.Owners
import GUPnP.ContextManager.Proof.Managed
import GUPnP.LinuxContextManager.Proof.Networks
import GUPnP.DeviceInfo.Navigation
import GUPnP.Discovery.Navigation
import GUPnP.Base.Records
import GUPnP.LinuxContextManager.Netlink
import GUPnP.LinuxContextManager.Proof.Datagrams
import GUPnP.HostPath.Serving
import GUPnP.RootDevice.Hosted
import GUPnP.Discovery.Network
