import Steward.Basic
import Steward.Methods
import Steward.Process
import Steward.Subscriber
import Steward.Deliver
import Steward.Signature
import Steward.FileNaming
import Steward.Registry
import Steward.Fabric
import Steward.ReplyOrigin
import Steward.HandlerOrder
import Steward.PublisherRefinement
import Steward.Redelivery
import Steward.SubscriberRefinement
import Steward.FaultFree
import Steward.Ingress
import Steward.ReplyMessage
import Steward.Readers
import Steward.Timeouts
import Steward.SigningKeys
import Steward.PublicKeys
