import MySensors.Spec.Message
import MySensors.Spec.Node
import MySensors.Spec.Transport
import MySensors.Spec.Process
import MySensors.Spec.GatewaySerial
import MySensors.Sanity.Keeps
import MySensors.Sanity.Core
import MySensors.Sanity.Receive
import MySensors.Proofs.NodeContext
import MySensors.Proofs.Ota
import MySensors.Proofs.Session
import MySensors.Proofs.Blocks
import MySensors.Proofs.Inbound
import MySensors.Proofs.Serial
import MySensors.Proofs.Crc
import MySensors.Proofs.Signing
import MySensors.Proofs.Unaddressed
